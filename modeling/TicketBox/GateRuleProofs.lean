import TicketBox.QrPayload
import TicketBox.AgreeProofs

/-! # The gate rule on the device

    A scan at the wrong gate is one of a ticket with a gate on a device with
    another.  The service checks it on the stored row (`sync_wrongGate_iff`); the
    offline path reads the ticket's gate off the payload and then never looks at
    it, and a payload without a gate it does not read at all.
    `offline_gate_rule_iff` says for which tickets and devices the offline path
    decides as the service does. -/

namespace TicketQr

open Interleave TicketCheckin CheckinPwa
open TicketStore (UserId)

/-! ## The scan by itself -/

/-- One awaited call of the scan, whatever it meets. -/
def ScanStep (s s' : Pwa) : Prop := ∃ luck, scanNext luck s = some s'

/-- `handleScan` of the text ends showing `r`. -/
def Shows (raw : String) (uuid : CheckinPwa.Uuid) (s : Pwa) (r : ScanResult) : Prop :=
  ∃ s' event, Relation.ReflTransGen ScanStep { s with device := handleScan raw uuid s.device } s' ∧
    s'.device.scan = .idle ∧ s'.device.shown.getLast? = some (r, event)

/-- What an offline scan of a ticket that was not scanned before shows. -/
def offlineShown (raw : String) (uuid : CheckinPwa.Uuid) (d : Device) : ScanResult :=
  match CheckinPwa.parseQrPayload raw with
  | none => malformedResult d raw
  | some parsed => offlineResult d (d.offlineRecord parsed uuid)

/-- Whatever its calls meet, the scan is on its way to show `r`. -/
def Showing (r : ScanResult) (d : Device) : Prop :=
  match d.scan with
  | .idle => ∃ event, d.shown.getLast? = some (r, event)
  | .checkingDuplicate parsed uuid =>
      hasTicketBeenScanned parsed.ticketId d = false ∧
        offlineResult d (d.offlineRecord parsed uuid) = r
  | .saving record => offlineResult d record = r
  | .marking record => offlineResult d record = r
  | .sending _ _ => False
  | .verifying _ _ _ => False

/-- The device shows the result. -/
theorem showing_show (d : Device) (r : ScanResult) (event : Option EventId) :
    Showing r (d.show r event) := by
  refine ⟨event, ?_⟩
  rw [Device.show, List.getLast?_concat]

/-- A step of a scan keeps what is shown. -/
theorem Showing.step {r : ScanResult} {s s' : Pwa} (h : Showing r s.device)
    (hs : ScanStep s s') : Showing r s'.device := by
  obtain ⟨luck, hnext⟩ := hs
  simp only [scanNext] at hnext
  simp only [Showing] at h
  cases hphase : s.device.scan with
  | idle =>
      rw [hphase] at hnext
      cases hnext
  | sending parsed uuid =>
      rw [hphase] at h
      exact h.elim
  | verifying parsed uuid i =>
      rw [hphase] at h
      exact h.elim
  | checkingDuplicate parsed uuid =>
      rw [hphase] at h hnext
      simp only [h.1, Bool.and_false, Bool.false_eq_true, if_false, Option.some.injEq] at hnext
      cases hnext
      exact h.2
  | saving record =>
      rw [hphase] at h hnext
      simp only at h hnext
      split_ifs at hnext with hfails
      · cases hnext
        rw [← h]
        exact showing_show _ _ _
      · cases hnext
        exact h
  | marking record =>
      rw [hphase] at h hnext
      simp only [Option.some.injEq] at h hnext
      cases hnext
      subst h
      -- the guard's write may fail, the gate stays the same
      by_cases hfails : luck.idbFails
      · simp only [if_pos hfails]
        exact showing_show _ _ _
      · simp only [if_neg hfails]
        exact showing_show _ _ _

/-- So does a run. -/
theorem Showing.run {r : ScanResult} {s s' : Pwa} (h : Showing r s.device)
    (hs : Relation.ReflTransGen ScanStep s s') : Showing r s'.device := by
  induction hs with
  | refl => exact h
  | tail _ hstep ih => exact ih.step hstep

/-- An offline scan of a ticket not seen before shows its result. -/
theorem showing_handleScan {raw : String} (uuid : CheckinPwa.Uuid) {d : Device}
    (hoffline : d.isOnline = false)
    (hnew : ∀ parsed, CheckinPwa.parseQrPayload raw = some parsed →
      hasTicketBeenScanned parsed.ticketId d = false) :
    Showing (offlineShown raw uuid d) (handleScan raw uuid d) := by
  simp only [handleScan, offlineShown]
  cases hparse : CheckinPwa.parseQrPayload raw with
  | none => exact showing_show _ _ _
  | some parsed =>
      simp only [hoffline, Bool.false_eq_true, if_false]
      exact ⟨hnew parsed hparse, rfl⟩

/-- The scan ends. -/
theorem exists_scan {raw : String} (uuid : CheckinPwa.Uuid) {s : Pwa}
    (hoffline : s.device.isOnline = false)
    (hnew : ∀ parsed, CheckinPwa.parseQrPayload raw = some parsed →
      hasTicketBeenScanned parsed.ticketId s.device = false) :
    ∃ s', Relation.ReflTransGen ScanStep { s with device := handleScan raw uuid s.device } s' ∧
      s'.device.scan = .idle := by
  cases hparse : CheckinPwa.parseQrPayload raw with
  | none =>
      have hend : handleScan raw uuid s.device
          = s.device.show (malformedResult s.device raw) none := by
        simp only [handleScan, hparse]
      rw [hend]
      exact ⟨_, Relation.ReflTransGen.refl, rfl⟩
  | some parsed =>
      have hstart : handleScan raw uuid s.device
          = { s.device with scan := .checkingDuplicate parsed uuid } := by
        simp only [handleScan, hparse, hoffline, Bool.false_eq_true, if_false]
      rw [hstart]
      have hcheck : ScanStep
          { s with device := { s.device with scan := .checkingDuplicate parsed uuid } }
          { s with device := { s.device with
              scan := .saving (s.device.offlineRecord parsed uuid) } } := by
        refine ⟨{}, ?_⟩
        have hfree : hasTicketBeenScanned parsed.ticketId
            { s.device with scan := .checkingDuplicate parsed uuid } = false := hnew parsed hparse
        simp only [scanNext, hfree, Bool.and_false, Bool.false_eq_true, if_false]
        rfl
      exact ⟨_, .head hcheck (.head ⟨{}, rfl⟩ (.head ⟨{}, rfl⟩ .refl)), rfl⟩

/-- **An offline scan** of a ticket not scanned before shows one result, whatever
    its transactions meet. -/
theorem shows_iff {raw : String} {uuid : CheckinPwa.Uuid} {s : Pwa} {r : ScanResult}
    (hoffline : s.device.isOnline = false)
    (hnew : ∀ parsed, CheckinPwa.parseQrPayload raw = some parsed →
      hasTicketBeenScanned parsed.ticketId s.device = false) :
    Shows raw uuid s r ↔ r = offlineShown raw uuid s.device := by
  have hshowing := showing_handleScan uuid hoffline hnew
  constructor
  · rintro ⟨s', event, hrun, hidle, hlast⟩
    have hend := Showing.run (s := { s with device := handleScan raw uuid s.device }) hshowing hrun
    rw [Showing, hidle] at hend
    obtain ⟨event', hlast'⟩ := hend
    rw [hlast] at hlast'
    cases hlast'
    rfl
  · rintro rfl
    obtain ⟨s', hrun, hidle⟩ := exists_scan uuid hoffline hnew
    have hend := Showing.run (s := { s with device := handleScan raw uuid s.device }) hshowing hrun
    rw [Showing, hidle] at hend
    obtain ⟨event, hlast⟩ := hend
    exact ⟨s', event, hrun, hidle, hlast⟩

/-! ## The rule -/

/-- A refusal that is neither for the text nor for a second scan. -/
def RefusedWrongGate (r : ScanResult) : Prop :=
  r.status = .invalid ∧ r.errorMsg ≠ some "Mã QR không đúng định dạng" ∧
    r.errorMsg ≠ some "VÉ ĐÃ ĐƯỢC CHECK-IN TRƯỚC ĐÓ"

theorem uuid_ne (uuid : CheckinPwa.Uuid) : uuid.1 ≠ "" := uuid.2

/-- The record that the device syncs for the ticket. -/
def QrTicket.record (ticket : QrTicket) (d : Device) (uuid : CheckinPwa.Uuid) :
    SyncCheckinRecordDto where
  ticketId := ticket.id.text
  token := ticket.qrRawToken.text
  deviceId := d.deviceId
  gateId := some d.gate
  offlineEventId := uuid.1
  ticketId_ne := ticket.id.text_ne
  token_ne := ticket.qrRawToken.text_ne
  deviceId_ne := d.deviceId_ne
  offlineEventId_ne := uuid_ne uuid

/-- The device's verdict is the gate rule's, and the service's on the ticket's
    record. -/
structure AppliesGateRule (ticket : QrTicket) (d : Device) (uuid : CheckinPwa.Uuid)
    (shown : ScanResult) : Prop where
  refused : RefusedWrongGate shown ↔ GateMismatch (some d.gate) ticket.gateId
  accepted : ¬ GateMismatch (some d.gate) ticket.gateId → shown.status = .valid
  synced : ∀ staffId w row, findTicket ticket.id.text w.db = some row →
    row.gateId = ticket.gateId →
    (RefusedWrongGate shown ↔
      offlineVerdict (syncAttempt (ticket.record d uuid) staffId w).result = .wrongGate)

/-- The service calls a scan one at the wrong gate by its first check on the row. -/
theorem sync_wrongGate_iff (record : SyncCheckinRecordDto) (staffId : UserId) {w : World}
    {row : Ticket} (hfound : findTicket record.ticketId w.db = some row) :
    offlineVerdict (syncAttempt record staffId w).result = .wrongGate ↔
      GateMismatch record.gateId row.gateId :=
  (syncAttempt_decided record staffId w).wrongGate_iff hfound

/-- The gate name has a character that is not trimmed away. -/
def Visible (gateId : Option String) : Prop :=
  ∃ c ∈ (gateId.getD "").toList, isTrimmed c = false

/-- A gate name is visible if something is left of it. -/
theorem visible_iff {gateId : Option String} :
    Visible gateId ↔ trimEnd (gateId.getD "").toList ≠ [] := by
  simp [Visible, trimEnd, List.rdropWhile_eq_nil_iff]

/-- The offline path reads no payload without a visible gate, and calls every other
    one valid. -/
theorem offlineShown_qrPayload (ticket : QrTicket) (uuid : CheckinPwa.Uuid) (d : Device) :
    (Visible ticket.gateId → (offlineShown ticket.qrPayload uuid d).status = .valid) ∧
      (¬ Visible ticket.gateId →
        offlineShown ticket.qrPayload uuid d = malformedResult d ticket.qrPayload) := by
  have hread := offlineCheckin_qrPayload ticket
  rw [OfflineCheckin.parseQrPayload] at hread
  constructor
  · intro hvisible
    rw [if_neg (visible_iff.mp hvisible), Option.map_eq_some_iff] at hread
    obtain ⟨parsed, hparse, -⟩ := hread
    simp only [offlineShown, hparse]
    rfl
  · intro hblank
    have hnil := not_not.mp (mt visible_iff.mpr hblank)
    rw [if_pos hnil, Option.map_eq_none_iff] at hread
    simp only [offlineShown, hread]

/-- The ticket of a payload that is read. -/
theorem parsed_ticketId {ticket : QrTicket} {parsed : ParsedQrPayload}
    (h : CheckinPwa.parseQrPayload ticket.qrPayload = some parsed) :
    parsed.ticketId = ticket.id.text := by
  have hread := offlineCheckin_qrPayload ticket
  rw [OfflineCheckin.parseQrPayload, h, Option.map_some] at hread
  split_ifs at hread
  exact congrArg QrParts.ticketId (Option.some.inj hread)

/-- A device that applies the gate rule exactly where it has nothing to check: the
    payload can be read, and the gates do not differ. -/
theorem appliesGateRule_iff (ticket : QrTicket) (uuid : CheckinPwa.Uuid) (d : Device) :
    AppliesGateRule ticket d uuid (offlineShown ticket.qrPayload uuid d) ↔
      Visible ticket.gateId ∧ ¬ GateMismatch (some d.gate) ticket.gateId := by
  obtain ⟨hvalid, hmalformed⟩ := offlineShown_qrPayload ticket uuid d
  have hnever : ¬ RefusedWrongGate (offlineShown ticket.qrPayload uuid d) := by
    rintro ⟨hinvalid, hformat, -⟩
    by_cases hvisible : Visible ticket.gateId
    · rw [hvalid hvisible] at hinvalid
      cases hinvalid
    · rw [hmalformed hvisible] at hformat
      exact hformat rfl
  constructor
  · intro h
    have hgate : ¬ GateMismatch (some d.gate) ticket.gateId := mt h.refused.mpr hnever
    refine ⟨?_, hgate⟩
    by_contra hvisible
    have hstatus := h.accepted hgate
    rw [hmalformed hvisible] at hstatus
    cases hstatus
  · rintro ⟨hvisible, hgate⟩
    refine ⟨iff_of_false hnever hgate, fun _ => hvalid hvisible, ?_⟩
    intro staffId w row hfound hrow
    have hservice := sync_wrongGate_iff (ticket.record d uuid) staffId hfound
    rw [hrow] at hservice
    exact iff_of_false hnever (mt hservice.mp hgate)

/-! ### The wrong gate, offline -/

/-- An offline device at gate B. -/
def deviceAtB : Pwa where
  server := ⟨gateNight, []⟩
  device :=
    { deviceId := "d", deviceId_ne := by decide, staffId := 8, gate := "B", isOnline := false
      checkinLogs := [], scannedTickets := [], scan := .idle, sync := .idle, shown := []
      cleared := [] }

/-- The id that the device draws for its first scan. -/
def firstScan : CheckinPwa.Uuid := ⟨"e", by decide⟩

/-- A ticket of gate A is let in at gate B. -/
theorem wrong_gate_accepted :
    hasTicketBeenScanned sampleId.text deviceAtB.device = false ∧
      (∀ r, Shows (QrTicket.qrPayload ⟨sampleId, sampleId, some "A"⟩) firstScan deviceAtB r →
        r.status = .valid) ∧
      ¬ ∃ r, Shows (QrTicket.qrPayload ⟨sampleId, sampleId, some "A"⟩) firstScan deviceAtB r ∧
        AppliesGateRule ⟨sampleId, sampleId, some "A"⟩ deviceAtB.device firstScan r := by
  have hshows := fun r => @shows_iff
    (QrTicket.qrPayload ⟨sampleId, sampleId, some "A"⟩) firstScan deviceAtB r rfl fun _ _ => rfl
  refine ⟨rfl, fun r hr => ?_, ?_⟩
  · rw [(hshows r).mp hr]
    exact (offlineShown_qrPayload _ _ _).1 ⟨'A', by simp, by decide⟩
  · rintro ⟨r, hr, hrule⟩
    rw [(hshows r).mp hr] at hrule
    exact ((appliesGateRule_iff _ _ _).mp hrule).2 (by decide)

/-- **The gate rule offline**: a ticket not scanned before is decided as the
    service decides it exactly when its gate can be read and is not another than
    the device's. -/
theorem offline_gate_rule_iff {ticket : QrTicket} {uuid : CheckinPwa.Uuid} {s : Pwa}
    (hoffline : s.device.isOnline = false)
    (hnew : hasTicketBeenScanned ticket.id.text s.device = false) :
    (∃ r, Shows ticket.qrPayload uuid s r ∧ AppliesGateRule ticket s.device uuid r) ↔
      Visible ticket.gateId ∧ ¬ GateMismatch (some s.device.gate) ticket.gateId := by
  have hfree : ∀ parsed, CheckinPwa.parseQrPayload ticket.qrPayload = some parsed →
      hasTicketBeenScanned parsed.ticketId s.device = false := by
    intro parsed hparse
    rw [parsed_ticketId hparse]
    exact hnew
  rw [← appliesGateRule_iff ticket uuid s.device]
  constructor
  · rintro ⟨r, hshows, hrule⟩
    rw [(shows_iff hoffline hfree).mp hshows] at hrule
    exact hrule
  · intro hrule
    exact ⟨_, (shows_iff hoffline hfree).mpr rfl, hrule⟩

/-- A ticket of gate B at gate B. -/
theorem offline_gate_rule_iff_sameGate :
    (∃ r, Shows (QrTicket.qrPayload ⟨sampleId, sampleId, some "B"⟩) firstScan deviceAtB r ∧
        AppliesGateRule ⟨sampleId, sampleId, some "B"⟩ deviceAtB.device firstScan r) ↔
      Visible (some "B") ∧ ¬ GateMismatch (some "B") (some "B") :=
  offline_gate_rule_iff rfl rfl

end TicketQr
