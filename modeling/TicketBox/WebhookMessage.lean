import TicketBox.QrPayload
import TicketBox.RequestHash

/-! # The signed message of a webhook

    `handleMockWebhook` checks the signature of a text that joins four fields of the
    body with colons.  The provider transaction id is free text and may hold colons
    of its own; the fields around it hold none, so the text can be split at its first
    colon and at its last two (`payload_injective`). -/

namespace TicketWebhook

open JsonText RequestHash
open TicketQr (Uuid)
open TicketStore (MockPaymentResult)

/-! ## The body -/

/-- `MockWebhookDto`, once validated; a finite amount is none for zero. -/
structure MockWebhookDto where
  orderId : JsString
  providerTransactionId : JsString
  result : MockPaymentResult
  amount : Option Decimal
  signature : JsString
  deriving DecidableEq

/-- The result as the gateway writes it. -/
def resultText : MockPaymentResult → JsString
  | .success => ascii "SUCCESS"
  | .failed => ascii "FAILED"
  | .timeout => ascii "TIMEOUT"

/-- The property of a parsed body; `undefined` where it has none. -/
def property (body : Value) (key : String) : Value :=
  match body with
  | .obj fields => (fields.lookup (ascii key)).getD undefined
  | _ => undefined

/-- `@IsString() @IsNotEmpty()`. -/
def isFilledString : Value → Option JsString
  | .leaf (.str s) => if s = [] then none else some s
  | _ => none

/-- `@IsEnum(MockPaymentResult)`. -/
def isMockPaymentResult : Value → Option MockPaymentResult
  | .leaf (.str s) => [.success, .failed, .timeout].find? fun r => resultText r = s
  | _ => none

/-- `@IsNumber()`, which infinite numbers do not pass. -/
def isNumber : Value → Option (Option Decimal)
  | .leaf (.num .zero) => some none
  | .leaf (.num (.decimal d)) => some (some d)
  | _ => none

/-- The validation pipe: the first check that fails rejects the body. -/
def MockWebhookDto.validate (body : Value) : Option MockWebhookDto := do
  let orderId ← isFilledString (property body "orderId")
  let providerTransactionId ← isFilledString (property body "providerTransactionId")
  let result ← isMockPaymentResult (property body "result")
  let amount ← isNumber (property body "amount")
  let signature ← isFilledString (property body "signature")
  return ⟨orderId, providerTransactionId, result, amount, signature⟩

/-! ## The signature -/

/-- The text `${amount}` is put in for. -/
def amountText (amount : Option Decimal) : JsString := (numberText amount).map Sym.unit

/-- `orderId:providerTransactionId:result:amount`. -/
def MockWebhookDto.payload (dto : MockWebhookDto) : JsString :=
  dto.orderId ++ unit ':' :: (dto.providerTransactionId ++ unit ':' ::
    (resultText dto.result ++ unit ':' :: amountText dto.amount))

/-- The gateway; `createSignature` is the HMAC under its secret, in hex. -/
structure MockGateway where
  createSignature : JsString → JsString

/-- `verifySignature`. -/
def MockGateway.verifySignature (gateway : MockGateway) (payload signature : JsString) : Bool :=
  gateway.createSignature payload = signature

/-- What `handleMockWebhook` has to go on with: the body passes the validation, its
    signature is the one of its payload, and the order is found. -/
structure Accepted (gateway : MockGateway) (orders : List Uuid) (body : Value)
    (dto : MockWebhookDto) : Prop where
  validated : MockWebhookDto.validate body = some dto
  signed : gateway.verifySignature dto.payload dto.signature = true
  found : ∃ id ∈ orders, dto.orderId = ascii id.text

/-! ## The message is read from both ends -/

section Split

variable {α : Type} {sep : α} {a b x y : List α}

/-- A list is split at its first separator. -/
theorem split_first [DecidableEq α] (ha : sep ∉ a) (hb : sep ∉ b) (h : a ++ sep :: x = b ++ sep :: y) :
    a = b ∧ x = y := by
  have hpieces := congrArg (List.splitOn sep) h
  rw [List.splitOn_append_cons_self_of_not_mem ha, List.splitOn_append_cons_self_of_not_mem hb]
    at hpieces
  obtain rfl := (List.cons.inj hpieces).1
  exact ⟨rfl, (List.cons.inj (List.append_cancel_left h)).2⟩

/-- And at its last one. -/
theorem split_last [DecidableEq α] (hx : sep ∉ x) (hy : sep ∉ y) (h : a ++ sep :: x = b ++ sep :: y) :
    a = b ∧ x = y := by
  have hreverse := congrArg List.reverse h
  simp only [List.reverse_append, List.reverse_cons, List.append_assoc, List.singleton_append]
    at hreverse
  obtain ⟨hx', ha'⟩ := split_first (by simpa using hx) (by simpa using hy) hreverse
  exact ⟨List.reverse_injective ha', List.reverse_injective hx'⟩

end Split

/-- A uuid has no colon. -/
theorem colon_not_mem_id (id : Uuid) : unit ':' ∉ ascii id.text := by
  intro h
  obtain ⟨c, hc, hunit⟩ := List.mem_map.mp h
  have hall : (('-' :: TicketQr.hexDigits).all fun d => unit d != unit ':') = true := by decide
  exact absurd hunit (by simpa using List.all_eq_true.mp hall c (id.mem_hex hc))

/-- Nor has a result. -/
theorem colon_not_mem_result (result : MockPaymentResult) : unit ':' ∉ resultText result := by
  cases result <;> decide

/-- Nor has an amount. -/
theorem colon_not_mem_amount (amount : Option Decimal) : unit ':' ∉ amountText amount := by
  intro h
  obtain ⟨s, -, hs⟩ := List.mem_map.mp h
  cases s with
  | digit d =>
      revert d
      decide
  | _ => exact absurd hs (by decide)

/-- Two results are written differently. -/
theorem resultText_injective : Function.Injective resultText := by
  intro r r' h
  cases r <;> cases r' <;> first | rfl | exact absurd h (by decide)

/-- Two amounts are written differently. -/
theorem amountText_injective : Function.Injective amountText :=
  (List.map_injective_iff.mpr Sym.unit_injective).comp numberText_injective

/-- **The message.**  Two webhooks for orders with an id are told apart by their payloads. -/
theorem payload_injective {dto dto' : MockWebhookDto} {id id' : Uuid}
    (hid : dto.orderId = ascii id.text) (hid' : dto'.orderId = ascii id'.text)
    (h : dto.payload = dto'.payload) :
    dto.orderId = dto'.orderId ∧ dto.providerTransactionId = dto'.providerTransactionId ∧
      dto.result = dto'.result ∧ dto.amount = dto'.amount := by
  rw [MockWebhookDto.payload, MockWebhookDto.payload] at h
  -- the order id, from the front
  have hfree : unit ':' ∉ dto.orderId := hid ▸ colon_not_mem_id id
  have hfree' : unit ':' ∉ dto'.orderId := hid' ▸ colon_not_mem_id id'
  obtain ⟨horder, hrest⟩ := split_first hfree hfree' h
  -- the amount and the result, from the back
  rw [← List.cons_append, ← List.append_assoc, ← List.cons_append, ← List.append_assoc] at hrest
  obtain ⟨hfront, hamount⟩ := split_last (colon_not_mem_amount _) (colon_not_mem_amount _) hrest
  obtain ⟨hprovider, hresult⟩ :=
    split_last (colon_not_mem_result _) (colon_not_mem_result _) hfront
  exact ⟨horder, hprovider, resultText_injective hresult, amountText_injective hamount⟩

/-- **The signature.**  With an HMAC that tells messages apart, two bodies that are
    accepted with one signature agree on all that is signed. -/
theorem signed_fields_agree {gateway : MockGateway}
    (hhmac : Function.Injective gateway.createSignature)
    {orders : List Uuid} {body body' : Value} {dto dto' : MockWebhookDto}
    (h : Accepted gateway orders body dto) (h' : Accepted gateway orders body' dto')
    (hsame : dto.signature = dto'.signature) :
    dto.orderId = dto'.orderId ∧ dto.providerTransactionId = dto'.providerTransactionId ∧
      dto.result = dto'.result ∧ dto.amount = dto'.amount := by
  have hsigned := of_decide_eq_true h.signed
  have hsigned' := of_decide_eq_true h'.signed
  obtain ⟨id, -, hid⟩ := h.found
  obtain ⟨id', -, hid'⟩ := h'.found
  exact payload_injective hid hid' (hhmac (hsigned.trans (hsame.trans hsigned'.symm)))

/-! ### One payment posted twice -/

theorem one_lt_ten : 1 < 10 := by
  decide

/-- The digits of 100, without its zeros. -/
def hundredDigits : List (Fin 10) := [⟨1, one_lt_ten⟩]

theorem hundredDigits_ne : hundredDigits ≠ [] := by
  decide

theorem hundredDigits_first : hundredDigits.head? ≠ some 0 := by
  decide

theorem hundredDigits_last : hundredDigits.getLast? ≠ some 0 := by
  decide

/-- The number 100. -/
def hundred : Decimal :=
  ⟨false, hundredDigits, 3, hundredDigits_ne, hundredDigits_first, hundredDigits_last⟩

/-- A webhook of an order at 100. -/
def sampleDto : MockWebhookDto where
  orderId := ascii TicketQr.sampleId.text
  providerTransactionId := ascii "MOCK_1"
  result := .success
  amount := some hundred
  signature := ascii "39edd02b75ecb189c2c9ddd73347679023bbf56cb2a3416e9b2e230f9a790776"

/-- The gateway of the secret `dev_secret`, as far as the sample's message goes. -/
def sampleGateway : MockGateway where
  createSignature message :=
    if message = sampleDto.payload then sampleDto.signature else unit '!' :: message

/-- The sample gateway signs two texts differently. -/
theorem sampleGateway_injective : Function.Injective sampleGateway.createSignature := by
  have hother : ∀ message, sampleDto.signature ≠ unit '!' :: message := by
    intro message h
    have hhead : sampleDto.signature.head? ≠ some (unit '!') := by decide
    exact hhead (congrArg List.head? h)
  intro x y h
  simp only [sampleGateway] at h
  split at h
  · next hx =>
    split at h
    · next hy => exact hx.trans hy.symm
    · exact absurd h (hother y)
  · split at h
    · exact absurd h.symm (hother x)
    · exact (List.cons.inj h).2

/-- The sample as a body, with the fields in some order. -/
def sampleFields : List (JsString × Value) :=
  [(ascii "orderId", .leaf (.str sampleDto.orderId)),
    (ascii "providerTransactionId", .leaf (.str sampleDto.providerTransactionId)),
    (ascii "result", .leaf (.str (ascii "SUCCESS"))), (ascii "amount", .leaf (.num (.decimal hundred))),
    (ascii "signature", .leaf (.str sampleDto.signature))]

theorem signed_fields_agree_sample :
    let body : Value := .obj sampleFields
    let body' : Value := .obj ((ascii "note", .leaf .null) :: sampleFields.reverse)
    ∃ dto dto', MockWebhookDto.validate body = some dto ∧ MockWebhookDto.validate body' = some dto' ∧
      dto.orderId = dto'.orderId ∧ dto.providerTransactionId = dto'.providerTransactionId ∧
        dto.result = dto'.result ∧ dto.amount = dto'.amount := by
  intro body body'
  have hvalid : MockWebhookDto.validate body = some sampleDto := by decide +kernel
  have hvalid' : MockWebhookDto.validate body' = some sampleDto := by decide +kernel
  have hsigned : sampleGateway.verifySignature sampleDto.payload sampleDto.signature = true :=
    by simp [MockGateway.verifySignature, sampleGateway]
  have hfound : ∃ id ∈ [TicketQr.sampleId], sampleDto.orderId = ascii id.text :=
    ⟨_, List.mem_cons_self, rfl⟩
  exact ⟨_, _, hvalid, hvalid', signed_fields_agree sampleGateway_injective
    ⟨hvalid, hsigned, hfound⟩ ⟨hvalid', hsigned, hfound⟩ rfl⟩

end TicketWebhook
