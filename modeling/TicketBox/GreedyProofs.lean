import TicketBox.GateAlone
import TicketBox.GreedyLoad

/-! # The worker fills the gates greedily

    The ticket issue processor gives every ticket of an order to the gate that is
    least loaded when the ticket's turn comes.  `Greedy` says so of the tickets it
    appends, `GreedyLoad` what that does to the loads.  A gate may be renamed to the
    empty name, which is also the name that stands for no gate; such a gate is picked
    once the room around it is used up, and its tickets are then at no gate. -/

namespace TicketGates

open Interleave GreedyLoad
open TicketStore (ConcertId OrderId Order OrderItem)
open TicketDb (gateIdOf leastLoaded leastLoadedGateName)
open TicketCheckin (TicketId)

/-! ## The gate that is picked -/

theorem leastLoaded_first (count : String → Nat) (rest : List TicketStore.Gate) :
    ∀ best, First ((best :: rest).map fun g => g.name) count (leastLoaded count best rest).name := by
  induction rest with
  | nil => exact fun best => ⟨[], [], rfl, by simp, by simp⟩
  | cons g rest ih =>
      intro best
      rw [leastLoaded]
      split
      · next hlt =>
        -- the first gate is beaten by the second one
        have hle := (ih g).least g.name List.mem_cons_self
        obtain ⟨pre, post, heq, hpre, hpost⟩ := ih g
        refine ⟨best.name :: pre, post, ?_, fun x hx => ?_, hpost⟩
        · rw [List.map_cons, heq]
          rfl
        · rcases List.mem_cons.mp hx with rfl | hx
          · exact Nat.lt_of_le_of_lt hle hlt
          · exact hpre x hx
      · next hnot =>
        have hbest : count best.name ≤ count g.name := Nat.le_of_not_lt hnot
        obtain ⟨pre, post, heq, hpre, hpost⟩ := ih best
        cases pre with
        | nil =>
            obtain ⟨hname, hrest⟩ := List.cons.inj heq
            refine ⟨[], g.name :: post, ?_, by simp, fun x hx => ?_⟩
            · rw [List.map_cons, List.map_cons, hrest, ← hname]
              rfl
            · rw [← hname]
              rcases List.mem_cons.mp hx with rfl | hx
              · exact hbest
              · rw [hname]
                exact hpost x hx
        | cons y ys =>
            obtain ⟨rfl, hrest⟩ := List.cons.inj heq
            refine ⟨best.name :: g.name :: ys, post, ?_, fun x hx => ?_, hpost⟩
            · rw [List.map_cons, List.map_cons, hrest]
              rfl
            · have hlt := hpre best.name List.mem_cons_self
              rcases List.mem_cons.mp hx with rfl | hx
              · exact hlt
              · rcases List.mem_cons.mp hx with rfl | hx
                · exact Nat.lt_of_lt_of_le hlt hbest
                · exact hpre x (List.mem_cons_of_mem _ hx)

theorem leastLoadedGateName_first (count : String → Nat) {rows : List Gate} (hne : rows ≠ []) :
    First (rows.map fun g => g.name) count
      (leastLoadedGateName count (rows.map Gate.toGate)) := by
  cases rows with
  | nil => exact absurd rfl hne
  | cons g rest =>
      have hfirst := leastLoaded_first count (rest.map Gate.toGate) g.toGate
      have hpick : leastLoadedGateName count ((g :: rest).map Gate.toGate)
          = (leastLoaded count g.toGate (rest.map Gate.toGate)).name := by
        rw [List.map_cons, leastLoadedGateName, leastLoaded, if_neg (Nat.lt_irrefl _)]
      have hnames : (g :: rest).map (fun g => g.name)
          = (g.toGate :: rest.map Gate.toGate).map fun g => g.name := by
        simp
      rw [hpick, hnames]
      exact hfirst

/-! ## The tickets of a job -/

/-- Each of the tickets appended is at a gate with the least count at that moment. -/
def Greedy (c : ConcertId) (gateRows : List Gate) : List Ticket → List Ticket → Prop
  | _, [] => True
  | tickets, t :: new =>
      (∃ g ∈ gateRows, t.gateId = some g.name ∧
        ∀ g' ∈ gateRows, gateCount tickets c g.name ≤ gateCount tickets c g'.name) ∧
      Greedy c gateRows (tickets ++ [t]) new

/-- The counts of any two gates of the concert differ by one at most. -/
def BalancedCounts (c : ConcertId) (w : World) : Prop :=
  ∀ g ∈ w.gatesOf c, ∀ g' ∈ w.gatesOf c,
    gateCount w.tickets c g.name ≤ gateCount w.tickets c g'.name + 1

theorem gateCount_append {tickets : List Ticket} {t : Ticket} {name : String}
    (hstatus : t.status = .issued) (hgate : t.gateId = some name) :
    gateCount (tickets ++ [t]) t.concertId = bump name (gateCount tickets t.concertId) := by
  funext x
  rw [gateCount, List.filter_append, List.length_append]
  by_cases hx : x = name
  · subst hx
    rw [bump_self, gateCount]
    simp [hstatus, hgate]
  · rw [bump_ne hx, gateCount]
    simp [hgate, Ne.symm hx]

theorem gateCount_append_none {tickets : List Ticket} {t : Ticket} (c : ConcertId)
    (hgate : t.gateId = none) : gateCount (tickets ++ [t]) c = gateCount tickets c := by
  funext x
  rw [gateCount, List.filter_append, List.length_append, gateCount]
  simp [hgate]

theorem balancedCounts_iff {c : ConcertId} {w : World} :
    BalancedCounts c w ↔ EvenLoad ((w.gatesOf c).map fun g => g.name) (gateCount w.tickets c) := by
  simp [BalancedCounts, EvenLoad]

/-- The row the worker writes for a unit. -/
def workerTicket (w : World) (order : Order) (uuid : Nat → String) (x : OrderItem × Nat)
    (tickets : List Ticket) : Ticket :=
  ticketOf w.typeName order (planTicket w.config
    (leastLoadedGateName (gateCount tickets order.concertId)
      ((w.gatesOf order.concertId).map Gate.toGate)) x.1 (uuid (2 * x.2)) (uuid (2 * x.2 + 1)))

theorem createTicket_some {t : Ticket} {tickets tickets' : List Ticket}
    (h : createTicket t tickets = some tickets') : tickets' = tickets ++ [t] := by
  rw [createTicket] at h
  split at h
  · cases h
  · exact (Option.some.inj h).symm

section Job

variable {w : World} {order : Order} {uuid : Nat → String}

/-- The names of the concert's gates. -/
def World.namesOf (c : ConcertId) (w : World) : List String := (w.gatesOf c).map fun g => g.name

theorem workerTicket_gate (x : OrderItem × Nat) (tickets : List Ticket) :
    (workerTicket w order uuid x tickets).gateId
      = gateIdOf (leastLoadedGateName (gateCount tickets order.concertId)
          ((w.gatesOf order.concertId).map Gate.toGate)) := rfl

/-- One turn of the worker's loop. -/
theorem commitIssue_cons {x : OrderItem × Nat} {units : List (OrderItem × Nat)}
    {tickets tickets' : List Ticket}
    (h : commitIssue w order uuid (x :: units) tickets = some tickets') :
    commitIssue w order uuid units (tickets ++ [workerTicket w order uuid x tickets])
      = some tickets' := by
  obtain ⟨mid, hmid, hrest⟩ := Option.bind_eq_some_iff.mp h
  have hmid : createTicket (workerTicket w order uuid x tickets) tickets = some mid := hmid
  rw [createTicket_some hmid] at hrest
  exact hrest

theorem commitIssue_append {units : List (OrderItem × Nat)} :
    ∀ {tickets tickets' : List Ticket}, commitIssue w order uuid units tickets = some tickets' →
      ∃ new, tickets' = tickets ++ new := by
  induction units with
  | nil =>
      intro tickets tickets' h
      cases h
      exact ⟨[], (List.append_nil _).symm⟩
  | cons x units ih =>
      intro tickets tickets' h
      obtain ⟨new, rfl⟩ := ih (commitIssue_cons h)
      exact ⟨workerTicket w order uuid x tickets :: new, List.append_assoc _ _ _⟩

/-- **One unit.**  The counts after a ticket of the worker: one more at the gate that is
    picked, none anywhere if that gate's name is empty. -/
theorem gateCount_worker (x : OrderItem × Nat) (tickets : List Ticket) :
    let pick := leastLoadedGateName (gateCount tickets order.concertId)
      ((w.gatesOf order.concertId).map Gate.toGate)
    gateCount (tickets ++ [workerTicket w order uuid x tickets]) order.concertId
      = if pick = "" then gateCount tickets order.concertId
        else bump pick (gateCount tickets order.concertId) := by
  intro pick
  split
  · next hempty =>
    exact gateCount_append_none _ ((workerTicket_gate x tickets).trans (if_pos hempty))
  · next hpick =>
    exact gateCount_append (t := workerTicket w order uuid x tickets) rfl
      ((workerTicket_gate x tickets).trans (if_neg hpick))

/-- **The loop.**  The tickets that are appended keep the counts balanced. -/
theorem commitIssue_balanced (hne : w.gatesOf order.concertId ≠ []) {units : List (OrderItem × Nat)} :
    ∀ {tickets tickets' : List Ticket}, commitIssue w order uuid units tickets = some tickets' →
      EvenLoad (w.namesOf order.concertId) (gateCount tickets order.concertId) →
      EvenLoad (w.namesOf order.concertId) (gateCount tickets' order.concertId) := by
  induction units with
  | nil =>
      intro tickets tickets' h hbal
      cases h
      exact hbal
  | cons x units ih =>
      intro tickets tickets' h hbal
      refine ih (commitIssue_cons h) ?_
      rw [gateCount_worker]
      split
      · exact hbal
      · exact hbal.bump (leastLoadedGateName_first _ hne).least

/-- Where a gate has the empty name, `n` units fit into the room around it. -/
def FitsAround (names : List String) (count : String → Nat) (n : Nat) : Prop :=
  ∀ pre post, names = pre ++ "" :: post → n ≤ room pre post count ""

/-- **The loop.**  The tickets that are appended are dealt greedily exactly as long as
    they fit around a gate with the empty name. -/
theorem commitIssue_greedy (hne : w.gatesOf order.concertId ≠ [])
    (hn : (w.namesOf order.concertId).Nodup) {units : List (OrderItem × Nat)} :
    ∀ {tickets new : List Ticket},
      commitIssue w order uuid units tickets = some (tickets ++ new) →
      (Greedy order.concertId (w.gatesOf order.concertId) tickets new ↔
        FitsAround (w.namesOf order.concertId) (gateCount tickets order.concertId)
          units.length) := by
  induction units with
  | nil =>
      intro tickets new h
      have hnil : new = [] := by
        have heq : tickets ++ [] = tickets ++ new :=
          (List.append_nil _).trans (Option.some.inj h)
        exact (List.append_cancel_left heq).symm
      subst hnil
      exact ⟨fun _ _ _ _ => Nat.zero_le _, fun _ => trivial⟩
  | cons x units ih =>
      intro tickets new h
      have hrest := commitIssue_cons h
      obtain ⟨new', heq⟩ := commitIssue_append hrest
      rw [List.append_assoc] at heq
      have hnew : new = workerTicket w order uuid x tickets :: new' := List.append_cancel_left heq
      subst hnew
      have hrest : commitIssue w order uuid units (tickets ++ [workerTicket w order uuid x tickets])
          = some (tickets ++ [workerTicket w order uuid x tickets] ++ new') := by
        rw [hrest, List.append_assoc]
        rfl
      have hfirst := leastLoadedGateName_first (gateCount tickets order.concertId) hne
      rw [Greedy, ih hrest, gateCount_worker, workerTicket_gate]
      by_cases hempty : leastLoadedGateName (gateCount tickets order.concertId)
          ((w.gatesOf order.concertId).map Gate.toGate) = ""
      · -- the ticket is at no gate, and there was no room left
        rw [hempty] at hfirst ⊢
        constructor
        · rintro ⟨⟨g, -, hgate, -⟩, -⟩
          cases hgate
        · intro hfits
          obtain ⟨pre, post, hnames, hpre, hpost⟩ := hfirst
          have hroom := hfits pre post hnames
          rw [room_of_first hpre hpost] at hroom
          cases hroom
      · rw [if_neg hempty]
        obtain ⟨g, hg, hname⟩ := List.mem_map.mp hfirst.mem
        have hgreedy : ∃ g ∈ w.gatesOf order.concertId,
            gateIdOf (leastLoadedGateName (gateCount tickets order.concertId)
              ((w.gatesOf order.concertId).map Gate.toGate)) = some g.name ∧
            ∀ g' ∈ w.gatesOf order.concertId, gateCount tickets order.concertId g.name
              ≤ gateCount tickets order.concertId g'.name := by
          refine ⟨g, hg, ?_, fun g' hg' => ?_⟩
          · rw [gateIdOf, if_neg hempty, hname]
          · rw [hname]
            exact hfirst.least _ (List.mem_map_of_mem hg')
        rw [and_iff_right hgreedy]
        -- the unit takes one of the room around the nameless gate
        have hroom : ∀ pre post, w.namesOf order.concertId = pre ++ "" :: post →
            room pre post (bump (leastLoadedGateName (gateCount tickets order.concertId)
              ((w.gatesOf order.concertId).map Gate.toGate)) (gateCount tickets order.concertId)) ""
              + 1 = room pre post (gateCount tickets order.concertId) "" := by
          intro pre post hnames
          have hfirst' : First (w.namesOf order.concertId) _ _ := hfirst
          rw [hnames] at hn hfirst'
          exact room_bump hn hfirst' hempty
        constructor
        · intro hfits pre post hnames
          have hle := hfits pre post hnames
          have := hroom pre post hnames
          rw [List.length_cons]
          omega
        · intro hfits pre post hnames
          have hle := hfits pre post hnames
          have := hroom pre post hnames
          rw [List.length_cons] at hle
          omega

/-- A job that issues tickets, run by itself. -/
theorem ends_job {w' : World} {o : OrderId} {n : Nat}
    (h : gates.Ends Choice.Calm w (Request.job o).enter w' (.issued n)) :
    ∃ order uuid tickets, RowTable.lookup Order.id o w.orders = some order ∧
      commitIssue w order uuid (unitsOf order.items) w.tickets = some tickets ∧
      w' = { w with tickets := tickets } := by
  have hcalm : ∃ ch : Choice, ch.Calm := ⟨{}, rfl⟩
  rw [Request.enter, ends_carry hcalm (fun _ hch => hch) fun _ _ => rfl] at h
  simp only [carryOut] at h
  cases hfind : RowTable.lookup Order.id o w.orders with
  | none =>
      rw [hfind] at h
      cases (ends_ret.mp h).2
  | some order =>
      simp only [hfind] at h
      split at h
      · cases (ends_ret.mp h).2
      split at h
      · cases (ends_ret.mp h).2
      rw [ends_carry hcalm (fun _ hch => hch) fun _ _ => rfl] at h
      simp only [carryOut] at h
      split at h
      · cases (ends_ret.mp h).2
      -- the transaction, with whatever ids it draws
      cases h with
      | turn k ch hch hadv hrest =>
          have hfails : ch.fails = false := hch
          have hdec : gates.decide ch w (.workerCommit order)
              = some (carryOut ch w (.workerCommit order)) := by
            show some (if ch.fails = true then _ else _) = _
            rw [hfails, if_neg (by simp)]
          simp only [System.advance, hdec, Option.map_some, Option.some.injEq, Prod.mk.injEq,
            and_true] at hadv
          obtain ⟨rfl, rfl⟩ := hadv
          simp only [carryOut] at hrest
          cases hcommit : commitIssue w order ch.uuid (unitsOf order.items) w.tickets with
          | none =>
              rw [hcommit] at hrest
              cases (ends_ret.mp hrest).2
          | some tickets =>
              rw [hcommit] at hrest
              exact ⟨order, ch.uuid, tickets, rfl, hcommit, (ends_ret.mp hrest).1⟩

/-- **Issuing.**  A job of the worker that issues the tickets of an order of a concert
    with a gate and balanced counts leaves balanced counts; and every ticket has gone to
    a gate with the least count exactly if the order fits around the gate with the empty
    name, where there is one. -/
theorem issue_greedy_iff {w' : World} {o : OrderId} {n : Nat} (h : Tables w)
    (horder : RowTable.lookup Order.id o w.orders = some order)
    (hgate : w.gatesOf order.concertId ≠ []) (hbal : BalancedCounts order.concertId w)
    (hends : gates.Ends Choice.Calm w (Request.job o).enter w' (.issued n)) :
    (∃ new, w'.tickets = w.tickets ++ new ∧
        Greedy order.concertId (w.gatesOf order.concertId) w.tickets new ∧
        BalancedCounts order.concertId w') ↔
      FitsAround (w.namesOf order.concertId) (gateCount w.tickets order.concertId)
        (unitsOf order.items).length := by
  obtain ⟨order', uuid, tickets, horder', hcommit, rfl⟩ := ends_job hends
  rw [horder] at horder'
  obtain rfl := Option.some.inj horder'
  have hend : BalancedCounts order.concertId { w with tickets := tickets } :=
    balancedCounts_iff.mpr (commitIssue_balanced hgate hcommit (balancedCounts_iff.mp hbal))
  obtain ⟨new, rfl⟩ := commitIssue_append hcommit
  rw [← commitIssue_greedy hgate h.gateNames_nodup hcommit]
  constructor
  · rintro ⟨new', heq, hgreedy, -⟩
    rw [List.append_cancel_left heq]
    exact hgreedy
  · intro hgreedy
    exact ⟨new, rfl, hgreedy, hend⟩

end Job

/-! ### A gate with the empty name -/

/-- A paid order of one ticket at a concert with a gate. -/
def paidDoors (gateRows : List Gate) : World :=
  { doors gateRows with orders := [{ oneTicket 1 1 with status := .paid }] }

/-- The only gate of the concert is renamed to the empty name, and a ticket is issued:
    it is at no gate. -/
theorem issue_passes_nameless_gate :
    ∃ w₁, gates.Serial Choice.Calm (fun _ _ => True) (paidDoors [⟨⟨1, "A"⟩, "g1"⟩]) w₁ ∧
      ∃ order, RowTable.lookup Order.id 1 w₁.orders = some order ∧
        w₁.gatesOf order.concertId ≠ [] ∧ BalancedCounts order.concertId w₁ ∧
        ∃ w₂, gates.Ends Choice.Calm w₁ (Request.job 1).enter w₂ (.issued 1) ∧
          ¬ ∃ new, w₂.tickets = w₁.tickets ++ new ∧
            Greedy order.concertId (w₁.gatesOf order.concertId) w₁.tickets new := by
  let cs : List (Nat × Choice) := [(0, {}), (0, {}), (0, drawn "t1" "raw1")]
  obtain ⟨w₁, hs, horder, hgates, htickets, hturns⟩ :=
    exists_serial gates Choice.Calm (fun _ _ => True) (w := paidDoors [⟨⟨1, "A"⟩, "g1"⟩])
      [(.update "g1" ⟨some ""⟩, List.replicate 3 (0, {}))]
      (fun w₁ => RowTable.lookup Order.id 1 w₁.orders = some { oneTicket 1 1 with status := .paid } ∧
        w₁.gates = [⟨⟨1, ""⟩, "g1"⟩] ∧ w₁.tickets = [] ∧
        (gates.turns w₁ (Request.job 1).enter cs).any (fun x =>
          x.2.2.answer.any fun a => decide (a = .issued 1 ∧
            x.2.1.tickets.map (fun t => t.gateId) = [none])) = true) (by decide +kernel)
  obtain ⟨w₂, a, hends, rfl, hnone⟩ := exists_ends gates Choice.Calm cs
    (fun w₂ a => a = .issued 1 ∧ w₂.tickets.map (fun t => t.gateId) = [none]) (by decide) hturns
  have hgatesOf : w₁.gatesOf 1 = [⟨⟨1, ""⟩, "g1"⟩] := by
    rw [World.gatesOf, hgates]
    rfl
  refine ⟨w₁, hs, _, horder, ?_, ?_, w₂, hends, ?_⟩
  · show w₁.gatesOf 1 ≠ []
    rw [hgatesOf]
    exact List.cons_ne_nil _ _
  · -- one gate alone is balanced
    intro g hg g' hg'
    have hg : g ∈ w₁.gatesOf 1 := hg
    have hg' : g' ∈ w₁.gatesOf 1 := hg'
    rw [hgatesOf] at hg hg'
    rw [List.mem_singleton.mp hg, List.mem_singleton.mp hg']
    exact Nat.le_succ _
  · rintro ⟨new, heq, hgreedy⟩
    rw [heq, htickets, List.nil_append] at hnone
    cases new with
    | nil => cases hnone
    | cons t new =>
        obtain ⟨⟨g, -, hgate, -⟩, -⟩ := hgreedy
        rw [List.map_cons, hgate] at hnone
        cases hnone

/-- Two gates, and a ticket for the first of them. -/
theorem issue_greedy_two_gates :
    let w := paidDoors [⟨⟨1, "A"⟩, "g1"⟩, ⟨⟨1, "B"⟩, "g2"⟩]
    ∃ w', gates.Ends Choice.Calm w (Request.job 1).enter w' (.issued 1) ∧
      ∃ new, w'.tickets = w.tickets ++ new ∧
        Greedy 1 (w.gatesOf 1) w.tickets new ∧ BalancedCounts 1 w' := by
  intro w
  have hrun : ∃ w' a, gates.Ends Choice.Calm w (Request.job 1).enter w' a ∧ a = .issued 1 :=
    exists_ends gates Choice.Calm [(0, {}), (0, {}), (0, drawn "t1" "raw1")]
      (fun _ a => a = .issued 1) (by decide) (by decide +kernel)
  obtain ⟨w', a, hends, rfl⟩ := hrun
  have htables : Tables w :=
    ⟨List.nodup_nil, show List.Nodup ["g1", "g2"] by decide, by decide⟩
  refine ⟨w', hends, (issue_greedy_iff htables rfl (show w.gatesOf 1 ≠ [] by decide) ?_ hends).mpr ?_⟩
  · show BalancedCounts 1 w
    rw [BalancedCounts]
    decide
  · -- no gate has the empty name
    intro pre post hnames
    have hmem : "" ∈ w.namesOf 1 := by
      rw [show w.namesOf 1 = pre ++ "" :: post from hnames]
      exact List.mem_append_right _ List.mem_cons_self
    exact absurd hmem (by decide)

end TicketGates
