import TicketBox.GateAlone
import Mathlib.Data.Int.CardIntervalMod

/-! # Rebalancing deals the tickets out evenly

    The two loops of `rebalance`, run alone, amount to signing ticket `i` of the
    ISSUED ones for gate `i % gates.length`: `reassign_eq_map` says what the second
    loop makes of a table, `gate_of_deal` that a ticket the first loop passed over is
    at its gate already.  How many indices fall on one gate is `Nat.count_modEq_card`. -/

namespace TicketGates

open Interleave
open TicketStore (ConcertId)
open TicketCheckin (TicketId QrConfig)

/-! ## Dealing out -/

/-- Two hands dealt in turn differ by one at most. -/
theorem deal_balanced {n k : Nat} (hk : 0 < k) (u v : Nat) :
    n.count (fun j => j % k = u % k) ≤ n.count (fun j => j % k = v % k) + 1 := by
  have hcount := fun v => Nat.count_modEq_card (b := n) hk v
  have hu : n.count (fun j => j % k = u % k) = n / k + if u % k < n % k then 1 else 0 := hcount u
  have hv : n.count (fun j => j % k = v % k) = n / k + if v % k < n % k then 1 else 0 := hcount v
  rw [hu, hv]
  split
  · split
    · omega
    · omega
  · split
    · omega
    · omega

/-! ## The second loop -/

/-- What the second loop makes of a ticket. -/
def signedBy (config : QrConfig) (updated : List (TicketId × String)) (t : Ticket) : Ticket :=
  match RowTable.lookup Prod.fst t.id updated with
  | none => t
  | some x => { t with
      gateId := some x.2
      qrSignature := some (newSignature config t.id t.qrTokenHash x.2) }

section Loops

variable {config : QrConfig} {updated : List (TicketId × String)} {tickets : List Ticket}

/-- A ticket that is not moved is left alone. -/
theorem signedBy_none {t : Ticket} (h : t.id ∉ updated.map Prod.fst) :
    signedBy config updated t = t := by
  have hnone : RowTable.lookup Prod.fst t.id updated = none :=
    RowTable.lookup_eq_none.mpr fun x hx he => h (List.mem_map.mpr ⟨x, hx, he⟩)
  rw [signedBy, hnone]

/-- A ticket that is moved is signed for its gate. -/
theorem signedBy_some {t : Ticket} {x : TicketId × String} (hn : (updated.map Prod.fst).Nodup)
    (hx : x ∈ updated) (hid : t.id = x.1) : signedBy config updated t = { t with
      gateId := some x.2
      qrSignature := some (newSignature config t.id t.qrTokenHash x.2) } := by
  have hsome : RowTable.lookup Prod.fst t.id updated = some x := by
    rw [hid]
    exact RowTable.lookup_of_mem hn hx
  rw [signedBy, hsome]

@[simp] theorem signedBy_id (t : Ticket) : (signedBy config updated t).id = t.id := by
  unfold signedBy
  split
  · rfl
  · rfl

/-- The first signature of a list of assignments, then the others. -/
theorem signedBy_cons {x : TicketId × String} {t : Ticket}
    (hn : ((x :: updated).map Prod.fst).Nodup) :
    signedBy config (x :: updated) t = if t.id = x.1 then { t with
        gateId := some x.2
        qrSignature := some (newSignature config t.id t.qrTokenHash x.2) }
      else signedBy config updated t := by
  by_cases h : t.id = x.1
  · rw [if_pos h, signedBy_some hn List.mem_cons_self h]
  · rw [if_neg h, signedBy, signedBy, RowTable.lookup,
      List.find?_cons_of_neg (by simpa using Ne.symm h)]
    rfl

/-- Moving the tickets one by one is a map. -/
theorem reassign_eq_map (hn : (updated.map Prod.fst).Nodup) :
    ∀ {tickets : List Ticket}, RowTable.Keyed (fun t : Ticket => t.id) tickets →
      reassign config updated tickets = tickets.map (signedBy config updated) := by
  induction updated with
  | nil =>
      intro tickets _
      exact ((List.map_congr_left fun t _ => rfl).trans (List.map_id tickets)).symm
  | cons x rest ih =>
      obtain ⟨ticket, newGateName⟩ := x
      obtain ⟨hnot, hrest⟩ := List.nodup_cons.mp hn
      intro tickets hk
      rw [reassign]
      cases hfind : RowTable.lookup (fun t : Ticket => t.id) ticket tickets with
      | none =>
          dsimp only
          rw [ih hrest hk]
          refine List.map_congr_left fun t ht => ?_
          rw [signedBy_cons hn, if_neg (RowTable.lookup_eq_none.mp hfind t ht)]
      | some found =>
          simp only [resign, hfind, Option.map_some, Option.getD_some]
          refine (ih hrest ?_).trans ?_
          · exact hk.modify fun _ => rfl
          rw [RowTable.modify, List.map_map]
          refine List.map_congr_left fun t ht => ?_
          rw [signedBy_cons hn, Function.comp]
          split
          · next hid =>
            -- the ticket just signed is not among the rest
            have hfound : found = t := by
              refine RowTable.eq_of_key hk (RowTable.lookup_mem hfind) ht ?_
              exact (RowTable.lookup_key hfind).trans hid.symm
            subst hfound
            rw [signedBy_none (by simpa [hid] using hnot), hid]
          · rfl

/-! ## The first loop -/

variable {b : Rebalance} {w : World}

/-- The assignments are in the order of the tickets. -/
theorem assignments_sublist {ids : List TicketId} :
    ∀ {i : Nat}, ((b.assignments w i ids).map Prod.fst).Sublist ids := by
  induction ids with
  | nil => exact .slnil
  | cons ticket rest ih =>
      intro i
      rw [Rebalance.assignments]
      split
      · exact ih.cons ticket
      · exact ih.cons_cons ticket

/-- An assignment is for a ticket that is elsewhere. -/
theorem assignments_differ {ids : List TicketId} :
    ∀ {i : Nat} {x : TicketId × String}, x ∈ b.assignments w i ids →
      (w.findTicket x.1).bind (fun t => t.gateId) ≠ some x.2 := by
  induction ids with
  | nil => exact fun h => absurd h List.not_mem_nil
  | cons ticket rest ih =>
      intro i x hx
      rw [Rebalance.assignments] at hx
      split at hx
      · exact ih hx
      · next hne =>
        rcases List.mem_cons.mp hx with rfl | hx
        · exact hne
        · exact ih hx

/-- Both loops together: the ticket at index `j` is at the gate whose turn it is,
    signed for it or there already. -/
theorem gate_of_deal {t : Ticket} (hfind : w.findTicket t.id = some t) {ids : List TicketId} :
    ∀ {i j : Nat}, ids.Nodup → ids[j]? = some t.id →
      (signedBy config (b.assignments w i ids) t).gateId = some (b.newGate (i + j)).name := by
  induction ids with
  | nil =>
      intro i j _ hj
      cases hj
  | cons ticket rest ih =>
      intro i j hn hj
      obtain ⟨hnot, hrest⟩ := List.nodup_cons.mp hn
      have hids : ((b.assignments w (i + 1) rest).map Prod.fst).Sublist rest := assignments_sublist
      rw [Rebalance.assignments]
      cases j with
      | zero =>
          have hid : ticket = t.id := Option.some.inj hj
          subst hid
          rw [hfind, Option.bind_some]
          split
          · next hat =>
            rw [signedBy_none fun hin => hnot (hids.subset hin)]
            exact hat
          · rw [signedBy_cons (List.nodup_cons.mpr ⟨fun hin => hnot (hids.subset hin),
              hrest.sublist hids⟩), if_pos rfl]
            rfl
      | succ j =>
          have hj : rest[j]? = some t.id := hj
          have hlater := ih (i := i + 1) hrest hj
          have hne : t.id ≠ ticket := fun he => hnot (he ▸ List.mem_of_getElem? hj)
          rw [show i + (j + 1) = i + 1 + j by omega]
          split
          · exact hlater
          · rw [signedBy_cons (List.nodup_cons.mpr ⟨fun hin => hnot (hids.subset hin),
              hrest.sublist hids⟩), if_neg hne]
            exact hlater

/-- A keyed table has each of the listed ids once. -/
theorem countP_ids {ids : List TicketId} (hk : RowTable.Keyed (fun t : Ticket => t.id) tickets)
    (hn : ids.Nodup) (hmem : ∀ id ∈ ids, ∃ t ∈ tickets, t.id = id) :
    tickets.countP (fun t => t.id ∈ ids) = ids.length := by
  have hperm : ((tickets.filter fun t => t.id ∈ ids).map fun t => t.id).Perm ids := by
    refine (List.perm_ext_iff_of_nodup ?_ hn).mpr fun id => ?_
    · exact List.Nodup.sublist (List.Sublist.map _ List.filter_sublist) hk
    · constructor
      · intro hin
        obtain ⟨t, ht, rfl⟩ := List.mem_map.mp hin
        exact of_decide_eq_true (List.mem_filter.mp ht).2
      · intro hin
        obtain ⟨t, ht, rfl⟩ := hmem id hin
        exact List.mem_map.mpr ⟨t, List.mem_filter.mpr ⟨ht, decide_eq_true hin⟩, rfl⟩
  rw [List.countP_eq_length_filter, ← hperm.length_eq, List.length_map]

end Loops

/-! ## The balance -/

/-- The ISSUED tickets of the concert that name this gate. -/
def World.issuedAt (c : ConcertId) (name : String) (w : World) : Nat :=
  (w.tickets.filter fun t => t.concertId = c ∧ t.status = .issued ∧ t.gateId = some name).length

/-- The ISSUED tickets are at the concert's gates, as many at one as at another up to
    one. -/
structure Fair (c : ConcertId) (w : World) : Prop where
  balanced : ∀ g ∈ w.gatesOf c, ∀ g' ∈ w.gatesOf c,
    w.issuedAt c g.name ≤ w.issuedAt c g'.name + 1
  placed : ∀ t ∈ w.ticketsOf c, t.status = .issued → ∃ g ∈ w.gatesOf c, t.gateId = some g.name

section Fairness

variable {w : World} {c : ConcertId} {b : Rebalance}

/-- A count over a range. -/
theorem countP_range (p : Nat → Prop) [DecidablePred p] (n : Nat) :
    (List.range n).countP (fun j => p j) = n.count p := by
  induction n with
  | zero => rfl
  | succ n ih =>
      rw [List.range_succ, List.countP_append, ih, Nat.count_succ, List.countP_singleton]
      by_cases hp : p n
      · simp [hp]
      · simp [hp]

/-- The gates of a concert have different names. -/
theorem Tables.names_nodup (h : Tables w) : ((w.sortedGates c).map fun g => g.name).Nodup := by
  have hperm : (w.sortedGates c).Perm (w.gatesOf c) := List.perm_insertionSort _ _
  rw [(hperm.map _).nodup_iff]
  exact h.gateNames_nodup

/-- A gate named like the one at index `m` is dealt to in turn `m`. -/
theorem newGate_name (hn : (b.gates.map fun g => g.name).Nodup) {m : Nat}
    (hm : m < b.gates.length) (j : Nat) :
    (b.newGate j).name = b.gates[m].name ↔ j % b.gates.length = m % b.gates.length := by
  have hj : j % b.gates.length < b.gates.length := Nat.mod_lt _ (by omega)
  have hget : (b.newGate j).name = b.gates[j % b.gates.length].name := rfl
  rw [hget, Nat.mod_eq_of_lt hm]
  constructor
  · intro hname
    have hgate := List.inj_on_of_nodup_map hn (List.getElem_mem hj) (List.getElem_mem hm) hname
    exact (List.Nodup.getElem_inj_iff (List.Nodup.of_map _ hn)).mp hgate
  · intro he
    simp only [he]

/-- What is dealt to the gate at index `m`. -/
theorem countP_dealt (hn : (b.gates.map fun g => g.name).Nodup) {m : Nat}
    (hm : m < b.gates.length) {ts : List Ticket} {gateOf : Ticket → Option String}
    (hdeal : ∀ (j : Nat) (t : Ticket), ts[j]? = some t → gateOf t = some (b.newGate j).name) :
    ts.countP (fun t => gateOf t = some b.gates[m].name)
      = ts.length.count fun j => j % b.gates.length = m % b.gates.length := by
  have hmap : ts.map gateOf = (List.range ts.length).map fun j => some (b.newGate j).name := by
    refine List.ext_getElem? fun j => ?_
    rw [List.getElem?_map, List.getElem?_map]
    cases hj : ts[j]? with
    | none =>
        rw [List.getElem?_eq_none_iff] at hj
        rw [List.getElem?_eq_none (by simpa using hj)]
        rfl
    | some t =>
        have hlt := (List.getElem?_eq_some_iff.mp hj).1
        rw [List.getElem?_range hlt, Option.map_some, Option.map_some, hdeal j t hj]
  have hcount : ts.countP (fun t => gateOf t = some b.gates[m].name)
      = (ts.map gateOf).countP fun x => x = some b.gates[m].name := by
    rw [List.countP_map]
    rfl
  rw [hcount, hmap, List.countP_map, ← countP_range]
  refine List.countP_congr fun j _ => ?_
  simp [newGate_name hn hm j]

/-! ## rebalance -/

/-- The tickets `rebalance` deals out, in its order. -/
def World.issuedOf (c : ConcertId) (w : World) : List Ticket :=
  (w.ticketsOf c).filter fun t => t.status = .issued

/-- `updatedTickets` -/
def Rebalance.updatedTickets (b : Rebalance) (w : World) : List (TicketId × String) :=
  b.assignments w 0 ((w.issuedOf b.concertId).map fun t => t.id)

/-- What `rebalance` makes of a ticket. -/
def Rebalance.dealt (b : Rebalance) (w : World) : Ticket → Ticket :=
  signedBy w.config (b.updatedTickets w)

/-- The issued tickets of the concert. -/
theorem mem_issuedOf {t : Ticket} :
    t ∈ w.issuedOf c ↔ t ∈ w.tickets ∧ t.concertId = c ∧ t.status = .issued := by
  simp only [World.issuedOf, World.ticketsOf, List.mem_filter, decide_eq_true_eq, and_assoc]

/-- They have different ids. -/
theorem Tables.issued_nodup (h : Tables w) : ((w.issuedOf c).map fun t => t.id).Nodup :=
  List.Nodup.sublist (List.Sublist.map _ (List.filter_sublist.trans List.filter_sublist)) h.tickets

/-- No ticket is moved twice. -/
theorem Tables.updated_nodup (h : Tables w) : ((b.updatedTickets w).map Prod.fst).Nodup :=
  h.issued_nodup.sublist assignments_sublist

/-- The whole rebalance is a map. -/
theorem Tables.reassign (h : Tables w) (b : Rebalance) :
    TicketGates.reassign w.config (b.updatedTickets w) w.tickets = w.tickets.map (b.dealt w) :=
  reassign_eq_map h.updated_nodup h.tickets

/-- The gates of the concert, as `rebalance` reads them. -/
def World.rebalanceOf (c : ConcertId) (w : World) (hne : w.sortedGates c ≠ []) : Rebalance :=
  ⟨c, w.sortedGates c, hne⟩

/-- What a rebalance of a concert with gates does. -/
theorem rebalanceAlone_eq (h : Tables w) (hc : c ∈ w.concerts) (hne : w.sortedGates c ≠ []) :
    ∃ stats, rebalanceAlone c w =
      ({ w with tickets := w.tickets.map ((w.rebalanceOf c hne).dealt w) },
        .rebalanced ((w.rebalanceOf c hne).updatedTickets w).length stats) := by
  have hmap := h.reassign (w.rebalanceOf c hne)
  rw [rebalanceAlone, if_pos hc, dif_neg hne]
  dsimp only
  rw [issued_eq]
  split
  · next hnil =>
    -- nothing is dealt out
    have hnone : (w.rebalanceOf c hne).updatedTickets w = [] := by
      rw [Rebalance.updatedTickets, World.issuedOf]
      show Rebalance.assignments _ w 0 (((w.ticketsOf c).filter _).map _) = []
      rw [hnil]
      rfl
    rw [hnone] at hmap
    rw [hnone, ← hmap]
    exact ⟨_, rfl⟩
  next hts =>
    exact ⟨_, by rw [← hmap]; rfl⟩

/-- Dealing writes the gate and its signature only. -/
theorem dealt_columns (b : Rebalance) (w : World) (t : Ticket) : ∃ gateId qrSignature,
    b.dealt w t = { t with gateId := gateId, qrSignature := qrSignature } := by
  rw [Rebalance.dealt, signedBy]
  split
  · exact ⟨t.gateId, t.qrSignature, rfl⟩
  · exact ⟨_, _, rfl⟩

/-- Only ISSUED tickets of the concert are assigned. -/
theorem assigned_issued (h : Tables w) {t : Ticket} (ht : t ∈ w.tickets)
    (hin : t.id ∈ (b.updatedTickets w).map Prod.fst) : t ∈ w.issuedOf b.concertId := by
  obtain ⟨t', ht', hid⟩ := List.mem_map.mp (assignments_sublist.subset hin)
  rw [RowTable.eq_of_key h.tickets ht (mem_issuedOf.mp ht').1 hid.symm]
  exact ht'

/-- A ticket of another concert or status is left alone. -/
theorem dealt_kept (h : Tables w) {t : Ticket} (ht : t ∈ w.tickets)
    (hnot : ¬ (t.concertId = b.concertId ∧ t.status = .issued)) : b.dealt w t = t :=
  signedBy_none fun hin => hnot (mem_issuedOf.mp (assigned_issued h ht hin)).2

/-- The ticket at index `j` ends at the gate of turn `j`. -/
theorem dealt_gateId (h : Tables w) {j : Nat} {t : Ticket}
    (hj : (w.issuedOf b.concertId)[j]? = some t) :
    (b.dealt w t).gateId = some (b.newGate j).name := by
  have hmem := (mem_issuedOf.mp (List.mem_of_getElem? hj)).1
  have hfind : w.findTicket t.id = some t := RowTable.lookup_of_mem h.tickets hmem
  have hid : ((w.issuedOf b.concertId).map fun t => t.id)[j]? = some t.id := by
    rw [List.getElem?_map, hj]
    rfl
  have hdeal : (b.dealt w t).gateId = some (b.newGate (0 + j)).name :=
    gate_of_deal hfind h.issued_nodup hid
  rwa [Nat.zero_add] at hdeal

/-- The assigned tickets are those whose gate changes. -/
theorem dealt_changes (h : Tables w) {t : Ticket} (ht : t ∈ w.tickets) :
    (b.dealt w t).gateId ≠ t.gateId ↔ t.id ∈ (b.updatedTickets w).map Prod.fst := by
  constructor
  · intro hne
    by_contra hnot
    exact hne (congrArg (fun t : Ticket => t.gateId) (signedBy_none hnot))
  · intro hin
    obtain ⟨x, hx, hid⟩ := List.mem_map.mp hin
    have hfind : w.findTicket x.1 = some t := by
      rw [hid]
      exact RowTable.lookup_of_mem h.tickets ht
    have hdiffer := assignments_differ hx
    rw [hfind] at hdiffer
    rw [Rebalance.dealt, signedBy_some h.updated_nodup hx hid.symm]
    exact Ne.symm hdiffer

/-- As many updates as tickets that change their gate. -/
theorem updated_length (h : Tables w) : (b.updatedTickets w).length
    = w.tickets.countP fun t => (b.dealt w t).gateId ≠ t.gateId := by
  have hcount := countP_ids h.tickets (h.updated_nodup (b := b)) fun id hid => by
    obtain ⟨t, ht, rfl⟩ := List.mem_map.mp (assignments_sublist.subset hid)
    exact ⟨t, (mem_issuedOf.mp ht).1, rfl⟩
  rw [List.length_map] at hcount
  rw [← hcount]
  refine List.countP_congr fun t ht => ?_
  simp only [decide_eq_true_eq]
  exact (dealt_changes h ht).symm

/-- What is ISSUED at a gate after `rebalance`. -/
theorem issuedAt_dealt (b : Rebalance) (name : String) :
    ({ w with tickets := w.tickets.map (b.dealt w) } : World).issuedAt b.concertId name
      = (w.issuedOf b.concertId).countP fun t => (b.dealt w t).gateId = some name := by
  rw [World.issuedAt, ← List.countP_eq_length_filter, List.countP_map, World.issuedOf,
    World.ticketsOf, List.countP_filter, List.countP_filter]
  refine List.countP_congr fun t _ => ?_
  obtain ⟨gateId, qrSignature, hcols⟩ := dealt_columns b w t
  simp only [Function.comp, hcols]
  simp [and_comm]

/-- The tickets at each gate, counted. -/
theorem issuedAt_gate (h : Tables w) (hn : (b.gates.map fun g => g.name).Nodup) {m : Nat}
    (hm : m < b.gates.length) :
    ({ w with tickets := w.tickets.map (b.dealt w) } : World).issuedAt b.concertId b.gates[m].name
      = (w.issuedOf b.concertId).length.count fun j => j % b.gates.length = m % b.gates.length := by
  rw [issuedAt_dealt]
  exact countP_dealt hn hm fun j t hj => dealt_gateId h hj

/-- The tickets are dealt fairly. -/
theorem fair_dealt (h : Tables w) (hne : w.sortedGates c ≠ []) :
    Fair c { w with tickets := w.tickets.map ((w.rebalanceOf c hne).dealt w) } := by
  have hn : ((w.rebalanceOf c hne).gates.map fun g => g.name).Nodup := h.names_nodup
  have hgates : ∀ g, g ∈ w.gatesOf c ↔ g ∈ (w.rebalanceOf c hne).gates :=
    fun g => mem_gatesOf.trans mem_sortedGates.symm
  constructor
  · intro g hg g' hg'
    obtain ⟨m, hm, rfl⟩ := List.getElem_of_mem ((hgates g).mp hg)
    obtain ⟨m', hm', rfl⟩ := List.getElem_of_mem ((hgates g').mp hg')
    have hleft := issuedAt_gate h hn hm
    have hright := issuedAt_gate h hn hm'
    have hbound := deal_balanced (n := (w.issuedOf c).length) (Nat.lt_of_le_of_lt (Nat.zero_le m) hm)
      m m'
    calc _ = _ := hleft
      _ ≤ _ := hbound
      _ = _ := congrArg (fun n => n + 1) hright.symm
  · intro t ht hstatus
    obtain ⟨hmem, hc⟩ := List.mem_filter.mp ht
    obtain ⟨x, hx, rfl⟩ := List.mem_map.mp hmem
    obtain ⟨gateId, qrSignature, hcols⟩ := dealt_columns (w.rebalanceOf c hne) w x
    rw [hcols] at hstatus hc
    have hissued : x ∈ w.issuedOf c := mem_issuedOf.mpr ⟨hx, of_decide_eq_true hc, hstatus⟩
    obtain ⟨j, hj⟩ := List.getElem?_of_mem hissued
    refine ⟨(w.rebalanceOf c hne).newGate j, (hgates _).mpr (List.get_mem _ _), ?_⟩
    exact dealt_gateId (b := w.rebalanceOf c hne) h hj

/-- **Rebalancing.**  At a concert with a gate, `rebalance` run by itself ends in one way:
    the tickets are rewritten one by one, in no column but the gate and the signature
    and only ISSUED ones of the concert; the gates then share these fairly; and it
    reports how many tickets changed their gate. -/
theorem rebalance_fair (h : Tables w) (hc : c ∈ w.concerts) (hgate : w.gatesOf c ≠ []) :
    ∃ (f : Ticket → Ticket) (totalTicketsUpdated : Nat) (stats : List (GateId × String × Nat)),
      (∀ w' a, gates.Ends Choice.Calm w (Request.rebalance c).enter w' a ↔
        w' = { w with tickets := w.tickets.map f } ∧ a = .rebalanced totalTicketsUpdated stats) ∧
      (∀ t ∈ w.tickets, f t = { t with gateId := (f t).gateId, qrSignature := (f t).qrSignature }) ∧
      (∀ t ∈ w.tickets, ¬ (t.concertId = c ∧ t.status = .issued) → f t = t) ∧
      totalTicketsUpdated = (w.tickets.filter fun t => (f t).gateId ≠ t.gateId).length ∧
      Fair c { w with tickets := w.tickets.map f } := by
  have hne : w.sortedGates c ≠ [] := by
    intro hnil
    have hperm : (w.sortedGates c).Perm (w.gatesOf c) := List.perm_insertionSort _ _
    rw [hnil] at hperm
    exact hgate hperm.nil_eq.symm
  have hcalm : ∃ ch : Choice, ch.Calm := ⟨{}, rfl⟩
  obtain ⟨stats, heq⟩ := rebalanceAlone_eq h hc hne
  refine ⟨(w.rebalanceOf c hne).dealt w, ((w.rebalanceOf c hne).updatedTickets w).length, stats,
    fun w' a => ?_, fun t _ => ?_, fun t ht hnot => ?_,
    ?_, fair_dealt h hne⟩
  · rw [ends_rebalance hcalm fun _ hch => hch, heq]
  · obtain ⟨gateId, qrSignature, hcols⟩ := dealt_columns (w.rebalanceOf c hne) w t
    rw [hcols]
  · exact dealt_kept (b := w.rebalanceOf c hne) h ht hnot
  · rw [updated_length h, List.countP_eq_length_filter]

end Fairness

/-! ### Three tickets at one of two gates -/

/-- A ticket at one of the gates, or at none. -/
def crowdedTicket (id : TicketId) (gateId : Option String) : Ticket where
  id := id
  concertId := 1
  ticketTypeName := "VIP"
  gateId := gateId
  qrTokenHash := "hash" ++ id
  qrSignature := none
  status := .issued
  checkedInAt := none
  orderId := 1
  qrRawToken := "raw"

/-- Two gates and four tickets, two of them at no gate of the concert. -/
def crowded : World :=
  { doors [⟨⟨1, "A"⟩, "g1"⟩, ⟨⟨1, "B"⟩, "g2"⟩] with
    tickets := [crowdedTicket "t1" (some "A"), crowdedTicket "t2" (some "A"),
      crowdedTicket "t3" (some "Z"), crowdedTicket "t4" none] }

/-- The four tickets end up two by two. -/
theorem rebalance_fair_crowded : ∃ w' a,
    gates.Ends Choice.Calm crowded (Request.rebalance 1).enter w' a ∧ Fair 1 w' := by
  have htables : Tables crowded :=
    ⟨show List.Nodup ["t1", "t2", "t3", "t4"] by decide, show List.Nodup ["g1", "g2"] by decide,
      by decide⟩
  obtain ⟨f, total, stats, hends, -, -, -, hfair⟩ :=
    rebalance_fair htables (show 1 ∈ crowded.concerts by decide) (show crowded.gatesOf 1 ≠ [] by decide)
  exact ⟨_, _, (hends _ _).mpr ⟨rfl, rfl⟩, hfair⟩

end TicketGates
