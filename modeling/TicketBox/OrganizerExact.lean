import TicketBox.OrganizerTold

/-! # Exactly which requests of an organizer are isolated

    `organizer_isolated`: the contained ones.  Without a check in the way, a gate of
    another organizer or a sale of one shows in the response (`contained_of_isolated`),
    and the deletion of a gate takes the tickets of other organizers along that name a
    gate of the same name (`takes_along`). -/

namespace TicketAccess

open TicketStore (UserId ConcertId OrderId Role)
open TicketGates (Gate UpdateGateDto)

variable {db : Db} {c : ConcertId} {e : Env} {user : AuthUser} {r : Request} {gate : Gate}

/-! ## The states compared -/

/-- An organizer who does not own all has a concert that is another's. -/
theorem exists_foreign {u : UserId} (h : ¬ db.OwnsAll u) : ∃ c, db.Foreign u c := by
  simp only [Db.OwnsAll, not_forall] at h
  obtain ⟨concert, hmem, howner⟩ := h
  exact ⟨concert.id, concert, hmem, rfl, howner⟩

/-- A concert of another organizer is there. -/
theorem Db.Foreign.concert {u : UserId} (h : db.Foreign u c) :
    ∃ concert ∈ db.concerts, concert.id = c := by
  obtain ⟨concert, hmem, hid, -⟩ := h
  exact ⟨concert, hmem, hid⟩

section Bare

variable (hvalid : db.Valid)
include hvalid

/-- No row of the bare state is of another organizer's concert. -/
theorem ne_of_own {u : UserId} {c' : ConcertId} (hc : db.Foreign u c) (hown : db.Owns u c') :
    c' ≠ c := by
  rintro rfl
  exact hown.not_foreign hvalid hc

/-- Beside the own rows there is room for a gate of another concert. -/
theorem bare_admits {u : UserId} {g : Gate} (hc : db.Foreign u g.concertId)
    (hid : ∀ g' ∈ (db.ownOnly u).gates, g'.id ≠ g.id) : (db.ownOnly u).Admits g where
  concert := hc.concert
  id := hid
  first := fun _ hg' => ne_of_own hvalid hc (mem_own.mp hg').2

/-- And for a sale of another concert. -/
theorem bare_sells {u : UserId} {oid : OrderId} (gateName : String) (hc : db.Foreign u c)
    (horder : ∀ o ∈ (db.ownOnly u).orders, o.id ≠ oid) :
    ∃ x : Sale, x.concertId = c ∧ x.orderId = oid ∧ x.gateName = gateName ∧
      (db.ownOnly u).Sells x :=
  exists_sale gateName hc.concert (fun _ htt => ne_of_own hvalid hc (mem_own.mp htt).2) horder

/-- What is isolated does not tell a gate of another organizer. -/
theorem Isolated.blindToGate {g : Gate} (h : Isolated e user r db)
    (hc : db.Foreign user.sub g.concertId) (hnew : (db.ownOnly user.sub).Admits g)
    (hfresh : e.Fresh r (db.ownOnly user.sub))
    (hfresh' : e.Fresh r ((db.ownOnly user.sub).addGate g)) :
    Alike (handle e user r (db.ownOnly user.sub)).2
      (handle e user r ((db.ownOnly user.sub).addGate g)).2 := by
  have hbare := ownOnly_valid user.sub hvalid
  have hown := ownOnly_agree user.sub db
  have hadded : Agree user.sub (db.ownOnly user.sub) ((db.ownOnly user.sub).addGate g) :=
    addGate_agree fun howns => ne_of_own hvalid hc howns rfl
  exact h.alike hbare (addGate_valid hbare hnew) hfresh hfresh' hown (hown.trans hadded)

/-- Nor a sale of one. -/
theorem Isolated.blindToSale {x : Sale} (h : Isolated e user r db)
    (hc : db.Foreign user.sub x.concertId) (hnew : (db.ownOnly user.sub).Sells x)
    (hfresh : e.Fresh r (db.ownOnly user.sub))
    (hfresh' : e.Fresh r ((db.ownOnly user.sub).addSale x)) :
    Alike (handle e user r (db.ownOnly user.sub)).2
      (handle e user r ((db.ownOnly user.sub).addSale x)).2 := by
  have hbare := ownOnly_valid user.sub hvalid
  have hown := ownOnly_agree user.sub db
  have hadded : Agree user.sub (db.ownOnly user.sub) ((db.ownOnly user.sub).addSale x) :=
    addSale_agree fun howns => ne_of_own hvalid hc howns rfl
  exact h.alike hbare (addSale_valid hbare hnew) hfresh hfresh' hown (hown.trans hadded)

end Bare

/-! ## Tickets taken along -/

/-- Deleting a gate beside another one leaves no ticket at its name. -/
theorem removeAlone_leaves (hvalid : db.Valid) (hgate : gate ∈ db.gates)
    (hother : db.HasOther gate) :
    ∀ x ∈ (TicketGates.removeAlone gate.id (db.gateWorld e)).1.tickets,
      x.gateId ≠ some gate.name := by
  have hfind := findGate_gateWorld (e := e) hvalid hgate
  by_cases hat : ∃ x ∈ (db.gateWorld e).tickets, x.gateId = some gate.name
  · cases hothers : (db.gateWorld e).otherGates gate with
    | nil => exact absurd hother ((otherGates_nil e db gate).mp hothers)
    | cons target others =>
        obtain ⟨tickets, hsign, heq⟩ := TicketGates.removeAlone_moves hfind hat hothers
        obtain ⟨f, hf, rfl⟩ := TicketGates.resignAll_moved hsign
        have htarget : target ∈ (db.gateWorld e).otherGates gate := by
          rw [hothers]
          exact List.mem_cons_self
        obtain ⟨hsorted, hid⟩ := List.mem_filter.mp htarget
        obtain ⟨hmem, hconcert⟩ := TicketGates.mem_sortedGates.mp hsorted
        have hname : target.name ≠ gate.name := by
          intro hname
          rw [hvalid.gateNames target hmem gate hgate hconcert hname] at hid
          exact of_decide_eq_true hid rfl
        rw [heq]
        intro x hx
        obtain ⟨y, hy, rfl⟩ := List.mem_map.mp hx
        have hin : y.id ∈ ((db.gateWorld e).ticketsAt gate.name).map Prod.fst ↔
            y.gateId = some gate.name := (hvalid.tables e).mem_ticketsAt hy
        by_cases hyat : y.gateId = some gate.name
        · rw [hf.moved y (hin.mpr hyat)]
          exact fun heq => hname (Option.some.inj heq)
        · rw [hf.kept y fun hmoved => hyat (hin.mp hmoved)]
          exact hyat
  · rw [TicketGates.removeAlone_empty hfind hat]
    exact fun x hx heq => hat ⟨x, hx, heq⟩

/-- The tickets seen by the gates are tickets. -/
theorem mem_withGates {w : TicketGates.World} {x : Ticket} (hx : x ∈ (db.withGates w).tickets) :
    x.toGateTicket ∈ w.tickets := by
  rw [Db.withGates, ← List.map_uncurry_zip_eq_zipWith] at hx
  obtain ⟨⟨y, t⟩, hmem, rfl⟩ := List.mem_map.mp hx
  exact (List.of_mem_zip hmem).2

/-- **A deletion moves the tickets at the gate's name, whoever organizes their concert.** -/
theorem takes_along (hvalid : db.Valid) (hgate : gate ∈ db.gates) (hother : db.HasOther gate)
    {x : Ticket} (hx : x ∈ db.tickets) (hat : x.gateId = some gate.name)
    (hforeign : db.Foreign user.sub x.concertId) : ¬ Unchanged e user (.removeGate gate.id) db := by
  intro h
  have htickets : ((handle e user (.removeGate gate.id) db).1.tickets.filter
        fun x => db.Foreign user.sub x.concertId)
      = db.tickets.filter fun x => db.Foreign user.sub x.concertId := congrArg Db.tickets h
  have hmem : x ∈ (handle e user (.removeGate gate.id) db).1.tickets :=
    (mem_at (fun x : Ticket => x.concertId) htickets hforeign).mpr hx
  exact removeAlone_leaves hvalid hgate hother _ (mem_withGates hmem) hat

/-! ## The exact condition -/

section Exact

variable (hvalid : db.Valid)
include hvalid

/-- An isolated update touches own gates only. -/
theorem isolated_updateGate {id : TicketGates.GateId} {dto : UpdateGateDto}
    (h : Isolated e user (.updateGate id dto) db) : Contained e user (.updateGate id dto) db := by
  by_contra hnot
  obtain ⟨hall, hnone⟩ := not_or.mp hnot
  obtain ⟨c, hc⟩ := exists_foreign hall
  have hbare := ownOnly_valid user.sub hvalid
  by_cases hgate : ∃ gate ∈ (db.ownOnly user.sub).gates, gate.id = id
  · obtain ⟨gate, hgate, rfl⟩ := hgate
    obtain ⟨hmem, hown⟩ := mem_own.mp hgate
    have hfree : ¬ dto.Taken gate ((db.ownOnly user.sub).gateWorld e) := by
      rintro ⟨g, hg, htaken⟩
      exact hnone ⟨gate, hmem, rfl, hown, g, List.mem_of_mem_filter hg, htaken⟩
    obtain ⟨oid, horder⟩ := exists_unused (fun o : Order => o.id) (db.ownOnly user.sub).orders
    obtain ⟨x, rfl, -, hname, hnew⟩ := bare_sells hvalid (dto.apply gate).name hc horder
    exact told_renameGate hbare hnew hgate hfree hname
      (h.blindToSale hvalid hc hnew trivial trivial)
  · have hnew : (db.ownOnly user.sub).Admits ⟨⟨c, ""⟩, id⟩ :=
      bare_admits hvalid hc fun g hg hid => hgate ⟨g, hg, hid⟩
    exact told_updateGate hbare hnew (h.blindToGate hvalid hc hnew trivial trivial)

/-- So does an isolated removal. -/
theorem isolated_removeGate {id : TicketGates.GateId} (h : Isolated e user (.removeGate id) db) :
    Contained e user (.removeGate id) db := by
  by_contra hnot
  obtain ⟨hall, hnone⟩ := not_or.mp hnot
  obtain ⟨c, hc⟩ := exists_foreign hall
  have hbare := ownOnly_valid user.sub hvalid
  by_cases hgate : ∃ gate ∈ (db.ownOnly user.sub).gates, gate.id = id
  · obtain ⟨gate, hgate, rfl⟩ := hgate
    obtain ⟨hmem, hown⟩ := mem_own.mp hgate
    refine hnone ⟨gate, hmem, rfl, hown, fun hlast => ?_, fun hother x hx hat => ?_⟩
    · -- no ticket of the user's keeps the last gate
      by_contra hkept
      have hlast' : ¬ (db.ownOnly user.sub).HasOther gate := by
        rintro ⟨g, hg, hrest⟩
        exact hlast ⟨g, List.mem_of_mem_filter hg, hrest⟩
      have hempty : ¬ ∃ x ∈ (db.ownOnly user.sub).tickets, x.gateId = some gate.name := by
        rintro ⟨x, hx, hat⟩
        obtain ⟨hmem, hown⟩ := mem_own.mp hx
        exact hkept ⟨x, hmem, hat, hown⟩
      obtain ⟨oid, horder⟩ := exists_unused (fun o : Order => o.id) (db.ownOnly user.sub).orders
      obtain ⟨x, rfl, -, hname, hnew⟩ := bare_sells hvalid gate.name hc horder
      exact told_removeLast hbare hnew hgate hlast' hname hempty
        (h.blindToSale hvalid hc hnew trivial trivial)
    · -- the ticket moves to another gate
      obtain ⟨o, ho, -, hconcert, -⟩ := hvalid.ticketOrder x hx
      rcases owns_or_foreign (hconcert ▸ hvalid.orderConcert o ho) with hown | hforeign
      · exact hown
      · exact absurd h.unchanged (takes_along hvalid hmem hother hx hat hforeign)
  · have hnew : (db.ownOnly user.sub).Admits ⟨⟨c, ""⟩, id⟩ :=
      bare_admits hvalid hc fun g hg hid => hgate ⟨g, hg, hid⟩
    exact told_removeGate hbare hnew (h.blindToGate hvalid hc hnew trivial trivial)

/-- An isolated read of an order reads an own one. -/
theorem isolated_getOrderAdmin {id : OrderId} (h : Isolated e user (.getOrderAdmin id) db) :
    Contained e user (.getOrderAdmin id) db := by
  by_contra hnot
  obtain ⟨hall, hnone⟩ := not_or.mp hnot
  obtain ⟨c, hc⟩ := exists_foreign hall
  have horder : ∀ o ∈ (db.ownOnly user.sub).orders, o.id ≠ id := by
    intro o ho hid
    obtain ⟨hmem, hown⟩ := mem_own.mp ho
    exact hnone ⟨o, hmem, hid, hown⟩
  obtain ⟨x, rfl, rfl, -, hnew⟩ := bare_sells hvalid "" hc horder
  exact told_getOrderAdmin hnew (ownOnly_valid user.sub hvalid)
    (h.blindToSale hvalid hc hnew trivial trivial)

/-- Isolated requests are contained. -/
theorem contained_of_isolated (hfresh : e.Fresh r db) (h : Isolated e user r db) :
    Contained e user r db := by
  have hbare := ownOnly_valid user.sub hvalid
  cases r with
  | listGates c =>
      intro hc
      obtain ⟨id, hid⟩ := exists_unused Gate.id (db.ownOnly user.sub).gates
      have hnew : (db.ownOnly user.sub).Admits ⟨⟨c, ""⟩, id⟩ := bare_admits hvalid hc hid
      exact told_listGates hnew (h.blindToGate hvalid hc hnew trivial trivial)
  | createGate c dto =>
      intro hc
      -- an id other than the one the new gate gets
      obtain ⟨id, hid⟩ := exists_unused (fun id => id)
        (e.gateId :: (db.ownOnly user.sub).gates.map Gate.id)
      obtain ⟨hne, hunused⟩ := List.forall_mem_cons.mp hid
      have hnew : (db.ownOnly user.sub).Admits ⟨⟨c, dto.name⟩, id⟩ :=
        bare_admits hvalid hc fun g hg => hunused g.id (List.mem_map_of_mem hg)
      have hfresh₁ : ∀ g ∈ (db.ownOnly user.sub).gates, g.id ≠ e.gateId :=
        fun g hg => hfresh g (List.mem_of_mem_filter hg)
      have hfresh₂ : ∀ g ∈ ((db.ownOnly user.sub).addGate ⟨⟨c, dto.name⟩, id⟩).gates,
          g.id ≠ e.gateId := by
        intro g hg
        rcases mem_addGate.mp hg with hg | rfl
        · exact hfresh₁ g hg
        · exact hne.symm
      exact told_createGate hnew rfl hfresh₁ hne.symm (h.blindToGate hvalid hc hnew hfresh₁ hfresh₂)
  | rebalance c =>
      intro hc
      obtain ⟨id, hid⟩ := exists_unused Gate.id (db.ownOnly user.sub).gates
      have hnew : (db.ownOnly user.sub).Admits ⟨⟨c, ""⟩, id⟩ := bare_admits hvalid hc hid
      exact told_rebalance hnew (h.blindToGate hvalid hc hnew trivial trivial)
  | updateGate id dto => exact isolated_updateGate hvalid h
  | removeGate id => exact isolated_removeGate hvalid h
  | getOrderAdmin id => exact isolated_getOrderAdmin hvalid h
  | _ => trivial

end Exact

/-- **An organizer's request is isolated exactly if the state does not bring it to rows of
    other organizers.**  The operations on concerts and ticket types and the list of
    orders always are; those on gates and the detail of an order make no check. -/
theorem organizer_isolated (hvalid : db.Valid) (hfresh : e.Fresh r db)
    (hrole : user.role = .organizer) : Isolated e user r db ↔ Contained e user r db := by
  refine ⟨contained_of_isolated hvalid hfresh, fun hin => ?_⟩
  exact ⟨contained_unchanged hvalid hfresh hrole hin, fun t ht hfresh' hagree =>
    response_alike hagree hvalid ht hfresh hfresh' hrole hin⟩

/-! ## Two organizers -/

/-- A concert of an organizer. -/
def hallOf (id : ConcertId) (organizerId : UserId) (slug : String) : TicketConcerts.Concert where
  id := id
  organizerId := organizerId
  status := .published
  title := "Concert"
  slug := slug
  description := none
  artistBio := none
  venue := "Hall"
  startsAt := 0
  saleStartsAt := none
  saleEndsAt := none
  seatMapUrl := none
  coverImageUrl := none
  reminderJobId := none
  createdAt := 0
  updatedAt := 0

/-- Concert 1 of organizer 1 and concert 2 of organizer 2, with a gate each. -/
def twoHalls : Db where
  concerts := [hallOf 1 1 "first-hall", hallOf 2 2 "second-hall"]
  ticketTypes := []
  gates := [⟨⟨1, "A"⟩, "g1"⟩, ⟨⟨2, "A"⟩, "g2"⟩]
  tickets := []
  orders := []
  payments := []
  counters := []
  stock := fun _ => none

/-- The two halls are a valid database. -/
theorem twoHalls_valid : twoHalls.Valid where
  concertIds := by decide
  slugs := by decide
  typeIds := by decide
  gateIds := by decide
  ticketIds := by decide
  tokens := by decide
  orderIds := by decide
  gateNames := by decide
  typeNames := by decide
  typeConcert := by decide
  gateConcert := by decide
  orderConcert := by decide
  items := by decide
  ticketOrder := by decide
  paymentOrder := by decide
  counterType := by decide

/-- What the requests take from outside. -/
def twoHallsEnv : Env where
  config := { sha256 := fun s => s, hmacSha256 := fun key s => key ++ s, qrSecret := "secret" }
  collate := fun a b => a ≤ b
  fullName := fun _ => none
  now := 0
  ticketTypeId := 1
  gateId := "g3"

/-- The organizer of concert 1. -/
def firstOrganizer : AuthUser := ⟨1, .organizer⟩

/-- The first organizer's rebalance is isolated in his own hall only. -/
theorem organizer_isolated_twoHalls :
    Isolated twoHallsEnv firstOrganizer (.rebalance 1) twoHalls ∧
      ¬ Isolated twoHallsEnv firstOrganizer (.rebalance 2) twoHalls := by
  have hexact : ∀ c : ConcertId, Isolated twoHallsEnv firstOrganizer (.rebalance c) twoHalls ↔
      Contained twoHallsEnv firstOrganizer (.rebalance c) twoHalls :=
    fun _ => organizer_isolated twoHalls_valid trivial rfl
  refine ⟨(hexact 1).mpr ?_, fun h => (hexact 2).mp h ?_⟩
  · show ¬ twoHalls.Foreign 1 1
    decide
  · show twoHalls.Foreign 1 2
    decide

/-- The gate of organizer 2 is renamed by organizer 1. -/
theorem organizer_not_isolated : ¬ ∀ (e : Env) (user : AuthUser) (r : Request) (db : Db),
    db.Valid → e.Fresh r db → user.role = .organizer → Isolated e user r db := by
  intro h
  have hchanged := (h twoHallsEnv firstOrganizer (.updateGate "g2" ⟨some "B"⟩) twoHalls
    twoHalls_valid trivial rfl).unchanged
  have hgates : ((handle twoHallsEnv firstOrganizer (.updateGate "g2" ⟨some "B"⟩)
        twoHalls).1.gates.filter fun g => twoHalls.Foreign 1 g.concertId)
      = twoHalls.gates.filter fun g => twoHalls.Foreign 1 g.concertId := congrArg Db.gates hchanged
  revert hgates
  decide

end TicketAccess
