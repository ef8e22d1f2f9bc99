import TicketBox.Cells

/-! # What the calls were given

    A createOrder call carries the items it has still to validate and those it
    has validated up to its reservations; an update carries the fields it was
    sent up to its write.  `AskGiven P Q` asserts `P` of the first and `Q` of
    the second; `given_step` keeps it along every run. -/

namespace TicketBackend

open Interleave TicketStore TicketRedis TicketDb TicketFlow TicketOrder TicketPayment
  TicketServices

/-- `P` holds of the items a call works on and `Q` of the fields it will write. -/
def AskGiven (P : List OrderItemDto → List TicketMeta → Prop) (Q : UpdateTicketTypeDto → Prop) :
    Ask → Prop
  | .createOrder dto _ => P dto.items []
  | .validateTicketType _ todo metas => P todo metas
  | .randomUUID _ metas => P [] metas
  | .reserveTickets _ _ slots => P [] (slots.map ReserveSlot.item)
  | .updateTicketType _ dto _ _ | .checkOwnership _ dto _ _ | .checkDuplicate _ dto _
  | .writeTicketType _ dto => Q dto
  | _ => True

/-- The same of a request. -/
def RequestGiven (P : List OrderItemDto → List TicketMeta → Prop) (Q : UpdateTicketTypeDto → Prop) :
    Request → Prop
  | .createOrder dto _ => P dto.items []
  | .updateTicketType _ dto _ _ => Q dto
  | _ => True

/-- Every call the operation may still make was given what its request carried. -/
def OpGiven (P : List OrderItemDto → List TicketMeta → Prop) (Q : UpdateTicketTypeDto → Prop)
    (prog : Op) : Prop :=
  prog.All (AskGiven P Q) fun _ => True

variable {P : List OrderItemDto → List TicketMeta → Prop} {Q : UpdateTicketTypeDto → Prop}

/-- A batch carries what follows it. -/
theorem opGiven_par {ts : List Task} {h rest : Op} :
    OpGiven P Q (.par ts h rest) ↔ OpGiven P Q h ∧ OpGiven P Q rest :=
  ⟨fun hp => hp.2, fun hp => ⟨fun _ _ => trivial, hp⟩⟩

/-- The operations that carry neither. -/
def Kind.inputless : Kind → Bool
  | .createOrder | .updateTicketType => false
  | _ => true

/-- An operation without input carries none. -/
theorem askGiven_of_inputless {d : Ask} (h : (Ask.kind d).inputless = true) : AskGiven P Q d := by
  unfold AskGiven
  split
  all_goals trivial

/-- So does all that is left of it. -/
theorem OfKind.opGiven {k : Kind} {prog : Op} (h : OfKind k prog) (hk : k.inputless = true) :
    OpGiven P Q prog :=
  h.mono (fun _ hd => askGiven_of_inputless (hd.symm ▸ hk)) fun _ => id

/-! ## createOrder -/

/-- The items of the slots are those of the request. -/
theorem opGiven_awaitReserve {ctx : CreateCtx} {o : OrderId} {slots : List ReserveSlot}
    (h : P [] (slots.map ReserveSlot.item)) : OpGiven P Q (awaitReserve ctx o slots) :=
  all_awaitReserve h (fun _ => trivial) fun _ _ _ _ _ => trivial

theorem opGiven_paymentError (caller : PaymentCaller) (o : OrderId) (e : ApiError) :
    OpGiven P Q (paymentError caller o e) := by
  cases caller with
  | createPayment => trivial
  | createOrder ctx metas => exact opGiven_par.mpr ⟨trivial, opGiven_par.mpr ⟨trivial, trivial⟩⟩

theorem opGiven_paymentDone (caller : PaymentCaller) (o : OrderId) (url : String)
    (reused : Bool) : OpGiven P Q (paymentDone caller o url reused) := by
  cases caller <;> trivial

theorem opGiven_createPaymentUrl (caller : PaymentCaller) (o : OrderId) (u : UserId) (w : World) :
    OpGiven P Q (TicketPayment.createPaymentUrl caller o u w) := by
  simp only [TicketPayment.createPaymentUrl]
  repeat' split
  all_goals first
    | exact opGiven_paymentError ..
    | exact opGiven_paymentDone ..
    | trivial

/-! ## TicketTypeService.update -/

theorem opGiven_afterWrite (row : TicketType) : OpGiven P Q (afterWrite row) := by
  simp only [afterWrite]
  split <;> trivial

theorem opGiven_afterDuplicate {existing : TicketType} {dto : UpdateTicketTypeDto} {role : Role}
    (h : Q dto) : OpGiven P Q (afterDuplicate existing dto role) := by
  simp only [afterDuplicate]
  split
  · trivial
  · exact h

/-! ## One step -/

/-- A call that answers in every state. -/
theorem opGiven_of_some {w' : World} {prog : Op} {x : World × Op} (h : some x = some (w', prog))
    (hx : OpGiven P Q x.2) : OpGiven P Q prog :=
  prop_of_some (P := fun _ prog => OpGiven P Q prog) h hx

/-- A call that only reads. -/
theorem opGiven_of_reads {ch : Choice} {w w' : World} {prog prog' : Op}
    (h : reads ch w prog' = some (w', prog)) (hx : OpGiven P Q prog') : OpGiven P Q prog :=
  prop_of_reads (P := fun _ prog => OpGiven P Q prog) h trivial hx

/-- A call goes on with what it was given, one validated item more at most. -/
theorem dispatch_given {ch : Choice} {w w' : World} {d : Ask} {prog : Op}
    (h : dispatch ch w d = some (w', prog)) (hd : AskGiven P Q d)
    (hvalid : ∀ ctx item todo metas m, validateTicketType w.db w.now ctx item = .ok m →
      P (item :: todo) metas → P todo (metas ++ [m])) :
    OpGiven P Q prog := by
  cases d with
  | createOrder dto u => exact opGiven_of_some h hd
  | validateTicketType ctx todo metas =>
      refine opGiven_of_reads h ?_
      cases todo with
      | nil => exact opGiven_par.mpr ⟨trivial, hd⟩
      | cons item todo =>
          simp only [validateNext]
          split
          · trivial
          · next m hm => exact hvalid _ _ _ _ _ hm hd
  | randomUUID ctx metas =>
      refine opGiven_of_some h (opGiven_awaitReserve ?_)
      rwa [List.map_map, show ReserveSlot.item ∘ (fun m : TicketMeta => ReserveSlot.mk m none) = id
        from rfl, List.map_id]
  | reserveTickets ctx o slots =>
      have hset : ∀ {s : ReserveSlot} (reply : Option (Except ApiError LuaScriptResult)),
          slots[ch.slot]? = some s →
          OpGiven P Q (awaitReserve ctx o (slots.set ch.slot { s with reply := reply })) := by
        intro s reply hs
        refine opGiven_awaitReserve ?_
        rw [items_set hs reply]
        exact hd
      cases dispatch_asked h with
      | idle _ _ _ _ _ howes _ => cases howes
      | reserveThrew _ _ _ s hs _ => exact hset _ hs
      | reserved _ _ _ s redis res hs _ _ => exact hset _ hs
      | paying _ ctx o metas payments d' hp _ _ => cases hp
      | payingFailed _ ctx o metas e hp _ => cases hp
      | deleted => trivial
      | deleteRefused => trivial
      | markFailed => trivial
  | persistOrder ctx o metas =>
      refine opGiven_of_some h ?_
      simp only [TicketOrder.persistOrder]
      split
      · trivial
      · exact opGiven_par.mpr ⟨trivial, trivial⟩
  | syncInventory ctx o metas =>
      refine opGiven_of_some h ?_
      simp only [TicketOrder.syncInventory]
      repeat' split
      all_goals first
        | trivial
        | exact opGiven_par.mpr ⟨trivial, trivial⟩
  | deleteOrderQuietly o e =>
      refine opGiven_of_some h ?_
      simp only [TicketOrder.deleteOrderQuietly]
      repeat' split
      all_goals trivial
  | deleteOrder o e =>
      refine opGiven_of_some h ?_
      simp only [TicketOrder.deleteOrder]
      repeat' split
      all_goals trivial
  | scheduleExpiry ctx o url =>
      refine opGiven_of_some h ?_
      simp only [TicketOrder.scheduleExpiry]
      split <;> trivial
  | createPaymentUrl caller o u =>
      refine opGiven_of_some h ?_
      simp only
      split
      · exact opGiven_paymentError ..
      · exact opGiven_createPaymentUrl ..
  | callGateway caller o amount existing =>
      refine opGiven_of_some h ?_
      simp only [TicketPayment.callGateway]
      split
      · exact opGiven_paymentError ..
      · trivial
  | savePaymentUrl caller o amount existing url =>
      refine opGiven_of_some h ?_
      simp only [TicketPayment.savePaymentUrl]
      split
      · exact opGiven_paymentError ..
      · exact opGiven_paymentDone ..
  | updateTicketType t dto u role =>
      refine opGiven_of_reads h ?_
      simp only [TicketServices.updateTicketType]
      split
      · trivial
      · exact hd
  | checkOwnership existing dto u role =>
      refine opGiven_of_reads h ?_
      simp only [TicketServices.checkOwnership]
      repeat' split
      all_goals first
        | trivial
        | exact hd
        | exact opGiven_afterDuplicate hd
  | checkDuplicate existing dto role =>
      refine opGiven_of_reads h ?_
      simp only [TicketServices.checkDuplicate]
      split
      · trivial
      · exact opGiven_afterDuplicate hd
  | writeTicketType existing dto =>
      refine opGiven_of_some h ?_
      simp only [TicketServices.writeTicketType]
      repeat' split
      all_goals first
        | trivial
        | exact opGiven_afterWrite _
  | seedStock row =>
      refine opGiven_of_some h ?_
      simp only [TicketServices.seedStock]
      split
      · trivial
      · exact opGiven_afterWrite row
  | setSoldOut row =>
      refine opGiven_of_some h ?_
      simp only [TicketServices.setSoldOut]
      repeat' split
      all_goals trivial
  | _ => exact (asked_kind (dispatch_asked h)).opGiven rfl

/-- An operation begins with the input of its request. -/
theorem given_enter {w : World} {r : Request} {prog : Op} (h : enter w r = some prog)
    (hr : RequestGiven P Q r) : OpGiven P Q prog := by
  have hk := (settled_enter h).ofKind
  cases r with
  | createOrder dto u =>
      rw [enter_call h]
      exact hr
  | updateTicketType t dto u role =>
      rw [enter_call h]
      exact hr
  | _ => exact hk.opGiven rfl

/-- What requests are given, the calls of every step carry on. -/
theorem given_step {G : Condition} {p q : State} (h : backend.Step G p q)
    (hp : ∀ prog ∈ p.ops, OpGiven P Q prog) (hG : ∀ r, G.req p r → RequestGiven P Q r)
    (hvalid : ∀ ctx item todo metas m,
      validateTicketType p.world.db p.world.now ctx item = .ok m →
        P (item :: todo) metas → P todo (metas ++ [m])) :
    ∀ prog ∈ q.ops, OpGiven P Q prog := by
  refine System.Step.all (J := fun (_ : World) d => AskGiven P Q d)
    (K := fun (_ : World) (_ : Task) => True) h hp ?_ ?_ ?_ ?_
  · intro r prog hr he
    exact given_enter he (hG r hr)
  · intro ch d w' prog _ hd _ hdec
    exact ⟨dispatch_given hdec hd hvalid, fun _ => id, fun _ => id⟩
  · exact fun _ _ _ _ _ _ _ => ⟨fun _ _ => trivial, fun _ => id, fun _ => id⟩
  · exact fun _ _ => ⟨fun _ => id, fun _ => id⟩

end TicketBackend
