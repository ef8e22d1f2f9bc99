import TicketBox.Pwa
import Mathlib.Data.List.DropRight

/-! # The QR payload

    `buildQrPayload` writes a ticket's id, raw token and gate name with colons
    between them; three parsers read it back: the backend's, `qr-utils.ts` of the
    check-in app, and `useOfflineCheckin.ts` of the same app, which alone is used
    at the gate.  The first two want exactly three parts, the third trims the text
    and gives everything behind the second colon to the gate; none of them accepts
    a ticket without a gate.  `roundTrips_iff` says for which gate names all three
    read what was written. -/

namespace TicketQr

open TicketCheckin CheckinPwa

/-! ## The encoder -/

/-- The fields that `buildQrPayload` writes. -/
structure QrPayloadInput where
  id : String
  rawToken : String
  gateId : String

/-- `buildQrPayload`: id, secret and gate, with colons between. -/
def buildQrPayload (ticket : QrPayloadInput) : String :=
  s!"{ticket.id}:{ticket.rawToken}:{ticket.gateId}"

/-- The digits of a uuid. -/
def hexDigits : List Char := "0123456789abcdefABCDEF".toList

/-- `xxxxxxxx-xxxx-xxxx-xxxx-xxxxxxxxxxxx`. -/
def IsUuid (text : String) : Prop :=
  text.toList.length = 36 ∧
    ∀ x ∈ text.toList.zipIdx, if x.2 ∈ [8, 13, 18, 23] then x.1 = '-' else x.1 ∈ hexDigits

/-- Length and characters are looked at. -/
instance (text : String) : Decidable (IsUuid text) :=
  inferInstanceAs (Decidable (_ ∧ ∀ x ∈ _, _))

/-- A text of the form of a uuid. -/
structure Uuid where
  text : String
  isUuid : IsUuid text

/-- What the encoder reads of a row of `Ticket`. -/
structure QrTicket where
  id : Uuid
  qrRawToken : Uuid
  gateId : Option String

/-- The payload that `order.service.ts` and `ticket.service.ts` give the customer. -/
def QrTicket.qrPayload (ticket : QrTicket) : String :=
  buildQrPayload
    { id := ticket.id.text, rawToken := ticket.qrRawToken.text, gateId := ticket.gateId.getD "" }

/-! ## The parsers -/

/-- What a parser reads. -/
structure QrParts where
  ticketId : String
  rawToken : String
  gateId : String
  deriving DecidableEq

/-- The text in three parts, none of them empty. -/
def threeParts (payload : String) : Option QrParts :=
  match payload.toList.splitOn ':' with
  | [ticketId, rawToken, gateId] =>
      if ticketId = [] ∨ rawToken = [] ∨ gateId = [] then none
      else some ⟨String.ofList ticketId, String.ofList rawToken, String.ofList gateId⟩
  | _ => none

/-- `parseQrPayload` of the backend's `qr-payload.util.ts`. -/
def Backend.parseQrPayload (payload : String) : Option QrParts := threeParts payload

/-- `parseQrPayload` of the app's `qr-utils.ts`. -/
def QrUtils.parseQrPayload (payload : String) : Option QrParts := threeParts payload

/-- `parseQrPayload` of the app's `useOfflineCheckin.ts`. -/
def OfflineCheckin.parseQrPayload (payload : String) : Option QrParts :=
  (CheckinPwa.parseQrPayload payload).map fun parsed =>
    ⟨parsed.ticketId, parsed.token, parsed.gateId⟩

/-- What is to be read off a ticket's payload; no gate is the empty name. -/
def QrTicket.parts (ticket : QrTicket) : QrParts where
  ticketId := ticket.id.text
  rawToken := ticket.qrRawToken.text
  gateId := ticket.gateId.getD ""

/-- Every parser reads the ticket off its payload. -/
structure RoundTrips (ticket : QrTicket) : Prop where
  backend : Backend.parseQrPayload ticket.qrPayload = some ticket.parts
  qrUtils : QrUtils.parseQrPayload ticket.qrPayload = some ticket.parts
  offlineCheckin : OfflineCheckin.parseQrPayload ticket.qrPayload = some ticket.parts

/-! ## The text -/

/-- The characters of a UUID. -/
theorem Uuid.mem_hex (u : Uuid) {c : Char} (h : c ∈ u.text.toList) : c ∈ '-' :: hexDigits := by
  obtain ⟨i, hi, rfl⟩ := List.getElem_of_mem h
  have hchar := u.isUuid.2 (u.text.toList[i], i) (by simp [List.mem_zipIdx_iff_getElem?])
  simp only at hchar
  split at hchar
  · rw [hchar]
    exact List.mem_cons_self
  · exact List.mem_cons_of_mem _ hchar

/-- None of them separates the parts or is trimmed. -/
theorem Uuid.char (u : Uuid) {c : Char} (h : c ∈ u.text.toList) :
    c ≠ ':' ∧ isTrimmed c = false := by
  have hall : (('-' :: hexDigits).all fun d => d != ':' && !isTrimmed d) = true := by decide
  simpa using List.all_eq_true.mp hall c (u.mem_hex h)

/-- A uuid has no colon. -/
theorem Uuid.colon_not_mem (u : Uuid) : ':' ∉ u.text.toList :=
  fun h => (u.char h).1 rfl

/-- It has characters. -/
theorem Uuid.ne_nil (u : Uuid) : u.text.toList ≠ [] := by
  intro h
  have hlen := u.isUuid.1
  rw [h] at hlen
  cases hlen

/-- It is not the empty text. -/
theorem Uuid.text_ne (u : Uuid) : u.text ≠ "" := by
  intro h
  have hnil := u.ne_nil
  rw [h] at hnil
  exact hnil rfl

/-- The code, character by character. -/
theorem qrPayload_toList (ticket : QrTicket) :
    ticket.qrPayload.toList = ticket.id.text.toList
      ++ ':' :: (ticket.qrRawToken.text.toList ++ ':' :: (ticket.gateId.getD "").toList) := by
  have htext : ticket.qrPayload = ticket.id.text ++ ":" ++ ticket.qrRawToken.text ++ ":"
      ++ ticket.gateId.getD "" := rfl
  rw [htext]
  simp

/-- Between two UUIDs and behind them the text is split where it was joined. -/
theorem splitOn_uuids (id token : Uuid) (gate : List Char) :
    (id.text.toList ++ ':' :: (token.text.toList ++ ':' :: gate)).splitOn ':'
      = id.text.toList :: token.text.toList :: gate.splitOn ':' := by
  rw [List.splitOn_append_cons_self_of_not_mem id.colon_not_mem,
    List.splitOn_append_cons_self_of_not_mem token.colon_not_mem]

/-! ## Trimming -/

/-- The text without the white space at its end. -/
def trimEnd (cs : List Char) : List Char := cs.rdropWhile isTrimmed

/-- A text whose front is bounded by visible characters is trimmed at its end. -/
theorem trim_append (front text : List Char) {back : List Char} {c d : Char} (hc : isTrimmed c = false)
    (hd : isTrimmed d = false) (hfront : front = c :: back) (hback : ∃ mid, front = mid ++ [d]) :
    trim (front ++ text) = front ++ trimEnd text := by
  obtain ⟨mid, hmid⟩ := hback
  have hstart : (front ++ text).dropWhile isTrimmed = front ++ text := by
    rw [hfront, List.cons_append, List.dropWhile_cons_of_neg (by simp [hc])]
  have hrev : front.reverse.dropWhile isTrimmed = front.reverse := by
    rw [hmid, List.reverse_append, List.reverse_singleton, List.singleton_append,
      List.dropWhile_cons_of_neg (by simp [hd])]
  rw [trim, hstart, List.reverse_append, List.dropWhile_append, hrev, trimEnd, List.rdropWhile]
  by_cases hnil : text.reverse.dropWhile isTrimmed = []
  · rw [hnil]
    simp
  · rw [if_neg (by simpa using hnil), List.reverse_append, List.reverse_reverse]

/-- Trimming leaves a text alone that ends in a visible character. -/
theorem trimEnd_eq_self_iff {cs : List Char} :
    trimEnd cs = cs ↔ ∀ c, cs.getLast? = some c → isTrimmed c = false := by
  rw [trimEnd, List.rdropWhile_eq_self_iff]
  constructor
  · intro h c hc
    have hne : cs ≠ [] := by
      rintro rfl
      cases hc
    rw [List.getLast?_eq_some_getLast hne] at hc
    cases hc
    simpa using h hne
  · intro h hne
    rw [h _ (List.getLast?_eq_some_getLast hne)]
    simp

/-- The payload, trimmed: only the gate name can lose anything. -/
theorem trim_qrPayload (ticket : QrTicket) :
    trim ticket.qrPayload.toList = ticket.id.text.toList
      ++ ':' :: (ticket.qrRawToken.text.toList ++ ':' :: trimEnd (ticket.gateId.getD "").toList) := by
  obtain ⟨c, back, hid⟩ := List.exists_cons_of_ne_nil ticket.id.ne_nil
  have hc : isTrimmed c = false := (ticket.id.char (hid ▸ List.mem_cons_self)).2
  have hfront := trim_append
    (ticket.id.text.toList ++ ':' :: (ticket.qrRawToken.text.toList ++ [':']))
    (ticket.gateId.getD "").toList hc
    (show isTrimmed ':' = false by decide)
    (by rw [hid]; rfl)
    ⟨ticket.id.text.toList ++ ':' :: ticket.qrRawToken.text.toList, by simp⟩
  rw [qrPayload_toList]
  simpa using hfront

/-! ## What the parsers read -/

/-- The code read back in three parts. -/
theorem threeParts_qrPayload (ticket : QrTicket) :
    threeParts ticket.qrPayload
      = match (ticket.gateId.getD "").toList.splitOn ':' with
        | [gateId] =>
            if gateId = [] then none
            else some ⟨ticket.id.text, ticket.qrRawToken.text, String.ofList gateId⟩
        | _ => none := by
  rw [threeParts, qrPayload_toList, splitOn_uuids]
  cases (ticket.gateId.getD "").toList.splitOn ':' with
  | nil => rfl
  | cons gate rest =>
      cases rest with
      | nil => simp [ticket.id.ne_nil, ticket.qrRawToken.ne_nil]
      | cons _ _ => rfl

/-- The code as the app reads it. -/
theorem offlineCheckin_qrPayload (ticket : QrTicket) :
    OfflineCheckin.parseQrPayload ticket.qrPayload
      = if trimEnd (ticket.gateId.getD "").toList = [] then none
        else some ⟨ticket.id.text, ticket.qrRawToken.text,
          String.ofList (trimEnd (ticket.gateId.getD "").toList)⟩ := by
  rw [OfflineCheckin.parseQrPayload, CheckinPwa.parseQrPayload, trim_qrPayload, splitOn_uuids]
  have hjoin : [':'].intercalate ((trimEnd (ticket.gateId.getD "").toList).splitOn ':')
      = trimEnd (ticket.gateId.getD "").toList := List.intercalate_splitOn ':'
  cases hsplit : (trimEnd (ticket.gateId.getD "").toList).splitOn ':' with
  | nil => exact absurd hsplit (List.splitOn_ne_nil _ _)
  | cons gatePart gateParts =>
      -- the parts of the gate are joined again
      rw [hsplit] at hjoin
      simp only [hjoin, String.ofList_toList]
      by_cases hnil : trimEnd (ticket.gateId.getD "").toList = []
      · simp [hnil]
      · have hid : ticket.id.text ≠ "" := by simpa using ticket.id.ne_nil
        have htoken : ticket.qrRawToken.text ≠ "" := by simpa using ticket.qrRawToken.ne_nil
        simp [hnil, hid, htoken]

/-! ## The round trip -/

/-- A gate name with a separator is read in too many parts. -/
theorem splitOn_eq_singleton_iff {gate x : List Char} :
    gate.splitOn ':' = [x] ↔ x = gate ∧ ':' ∉ gate := by
  constructor
  · intro h
    have hjoin : [':'].intercalate (gate.splitOn ':') = gate := List.intercalate_splitOn ':'
    rw [h] at hjoin
    refine ⟨by simpa using hjoin, fun hmem => ?_⟩
    obtain ⟨before, after, rfl⟩ := List.append_of_mem hmem
    have hlen := congrArg List.length h
    have hbefore := List.length_pos_iff.mpr (List.splitOn_ne_nil ':' before)
    have hafter := List.length_pos_iff.mpr (List.splitOn_ne_nil ':' after)
    rw [List.splitOn_append_cons_self, List.length_append, List.length_singleton] at hlen
    omega
  · rintro ⟨rfl, hmem⟩
    exact List.splitOn_eq_singleton hmem

/-- The backend's parser and `qr-utils.ts` read a gate that is named without a colon. -/
theorem threeParts_iff (ticket : QrTicket) :
    threeParts ticket.qrPayload = some ticket.parts ↔
      ∃ gate, ticket.gateId = some gate ∧ gate ≠ "" ∧ ':' ∉ gate.toList := by
  rw [threeParts_qrPayload]
  constructor
  · intro h
    split at h
    · next gateId hsplit =>
      obtain ⟨rfl, hcolon⟩ := splitOn_eq_singleton_iff.mp hsplit
      split_ifs at h with hnil
      cases hgate : ticket.gateId with
      | none =>
          rw [hgate] at hnil
          exact absurd rfl hnil
      | some gate =>
          rw [hgate] at hnil hcolon
          exact ⟨gate, rfl, by simpa using hnil, hcolon⟩
    · cases h
  · rintro ⟨gate, hgate, hne, hcolon⟩
    have hnil : gate.toList ≠ [] := by simpa using hne
    rw [hgate, Option.getD_some, List.splitOn_eq_singleton hcolon]
    simp only [if_neg hnil, String.ofList_toList, QrTicket.parts, hgate, Option.getD_some]

/-- The parser of the offline path reads a gate that ends in a visible character. -/
theorem offlineCheckin_iff (ticket : QrTicket) :
    OfflineCheckin.parseQrPayload ticket.qrPayload = some ticket.parts ↔
      ∃ gate, ticket.gateId = some gate ∧ gate ≠ "" ∧
        ∀ c, gate.toList.getLast? = some c → isTrimmed c = false := by
  rw [offlineCheckin_qrPayload]
  constructor
  · intro h
    split_ifs at h with hnil
    have hname := congrArg QrParts.gateId (Option.some.inj h)
    have hsame : trimEnd (ticket.gateId.getD "").toList = (ticket.gateId.getD "").toList := by
      have := congrArg String.toList hname
      simpa [QrTicket.parts] using this
    cases hgate : ticket.gateId with
    | none =>
        rw [hgate] at hnil
        exact absurd rfl hnil
    | some gate =>
        rw [hgate, Option.getD_some] at hsame hnil
        rw [hsame] at hnil
        exact ⟨gate, rfl, by simpa using hnil, trimEnd_eq_self_iff.mp hsame⟩
  · rintro ⟨gate, hgate, hne, hlast⟩
    have hnil : gate.toList ≠ [] := by simpa using hne
    rw [hgate, Option.getD_some, trimEnd_eq_self_iff.mpr hlast, if_neg hnil]
    simp only [String.ofList_toList, QrTicket.parts, hgate, Option.getD_some]

/-- **The round trip**: all parsers read the ticket off its payload exactly when it
    has a gate, named without a colon and without white space at the end. -/
theorem roundTrips_iff (ticket : QrTicket) :
    RoundTrips ticket ↔ ∃ gate, ticket.gateId = some gate ∧ gate ≠ "" ∧ ':' ∉ gate.toList ∧
      ∀ c, gate.toList.getLast? = some c → isTrimmed c = false := by
  constructor
  · rintro ⟨hbackend, -, hoffline⟩
    obtain ⟨gate, hgate, hne, hcolon⟩ := (threeParts_iff ticket).mp hbackend
    obtain ⟨gate', hgate', -, hlast⟩ := (offlineCheckin_iff ticket).mp hoffline
    rw [hgate] at hgate'
    cases hgate'
    exact ⟨gate, hgate, hne, hcolon, hlast⟩
  · rintro ⟨gate, hgate, hne, hcolon, hlast⟩
    have hthree := (threeParts_iff ticket).mpr ⟨gate, hgate, hne, hcolon⟩
    exact ⟨hthree, hthree, (offlineCheckin_iff ticket).mpr ⟨gate, hgate, hne, hlast⟩⟩

/-! ### A ticket without a gate -/

/-- A uuid. -/
def sampleId : Uuid := ⟨"3f2504e0-4f89-41d3-9a0c-0305e82c3301", by decide⟩

/-- No parser reads the payload of a ticket without a gate. -/
theorem not_roundTrips_noGate : ¬ RoundTrips ⟨sampleId, sampleId, none⟩ := by
  rintro ⟨hbackend, -, -⟩
  obtain ⟨gate, hgate, -⟩ := (threeParts_iff _).mp hbackend
  cases hgate

end TicketQr
