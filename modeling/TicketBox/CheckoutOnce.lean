import TicketBox.CheckoutSteps

/-! # One order for one checkout

    The tab and the server together: under one key a checkout gets one order, however often
    it is repeated, as long as its requests come in turn and its record lives
    (`one_order_per_key`).  While the record lives it decides: a checkout with another
    selection does not get through (`settled_order_decides`), and a payment that has failed
    once is not created any more (`failed_payment_stays`). -/

namespace TicketCheckout

open Interleave Machine
open TicketIdempotency (RequestHash Route Answer Outcome Choice Served Settled Settles inTurn
  onRoute Clear handlerResponses)

variable {platform : Platform} {s s' s₀ : State} {scope : Scope} {key : Key} {name : String}
  {m : Move}

/-! ## Steps of the server -/

/-- Names of records differ where keys do. -/
theorem redisKey_inj {key' : Key} (h : platform.redisKey key = platform.redisKey key') :
    key = key' :=
  Subtype.ext (String.append_right_inj _ |>.mp h)

/-- A move of the tab makes at most one step of the server. -/
theorem ServerMoved.step {G : TicketIdempotency.Condition Response}
    (h : ServerMoved platform m s s')
    (hstart : ∀ scope key round body, (⟨key, scope, round⟩ : Issued) ∈ s'.issued →
      s'.sent = ⟨scope, key, round, body⟩ :: s.sent →
      G.req s.server (platform.requestOf scope key body))
    (hother : ∀ request, request.recordName ∈ s'.others → G.req s.server request)
    (hexpire : ∀ name, m = .expire name → G.env s.server ⟨name⟩)
    (hcall : ∀ op ch, G.ok s.server (.step op 0 ch)) :
    s'.server = s.server ∨ interceptor.Step G s.server s'.server := by
  cases h with
  | quiet heq => exact .inl heq
  | started scope key round body hissued hsent heq =>
      refine .inr (step_of_next (a := .start (platform.requestOf scope key body))
        (hstart scope key round body hissued hsent) ?_)
      rw [heq]
      rfl
  | served op ch hnext => exact .inr (step_of_next (hcall op ch) hnext)
  | expired name hm hnext =>
      exact .inr (step_of_next (a := .env ⟨name⟩) (hexpire name hm) hnext)
  | other request hmem hnext =>
      exact .inr (step_of_next (a := .start request) (hother request hmem) hnext)

/-- A condition that asks nothing of the calls. -/
theorem ok_call {G : TicketIdempotency.Condition Response} (hask : ∀ p ch d, G.ask p ch d)
    (p : TicketIdempotency.State Response) (op : Nat) (ch : Choice Response) :
    G.ok p (.step op 0 ch) := by
  unfold Guard.ok
  dsimp only
  split
  · exact hask p ch _
  · split
    · rename_i t _
      exact isEmptyElim t
    · trivial
  · trivial

/-! ## What a page waits for -/

/-- The call belongs to the request of `key` and `body`. -/
def AskBelongs (platform : Platform) (key : Key) (body : RequestBody)
    (d : TicketIdempotency.Ask Response) : Prop :=
  d.params.redisKey = platform.redisKey key ∧ d.params.requestHash = platform.requestHash body

/-- An answer of the interceptor is about this key and this body. -/
def AnswerBelongs (platform : Platform) (key : Key) (body : RequestBody)
    (a : Answer Response) : Prop :=
  ∀ r outcome, a = .answered r outcome → r.redisKey = platform.redisKey key ∧
    r.requestHash = platform.requestHash body

/-- A request at the server carries this key and this body. -/
def Belongs (platform : Platform) (key : Key) (body : RequestBody)
    (prog : TicketIdempotency.Op Response) : Prop :=
  prog.Meets (AskBelongs platform key body) (AnswerBelongs platform key body)

/-- A page waits for its own request. -/
def Linked (platform : Platform) (s : State) : Prop :=
  ∀ page ∈ s.tab.pages, ∀ key body op, page.stage.Awaits key body op →
    ∃ prog, s.server.ops[op]? = some prog ∧ Belongs platform key body prog

/-- A request begins with its own key and body. -/
theorem requestOf_belongs (scope : Scope) (key : Key) (body : RequestBody) :
    Belongs platform key body (platform.requestOf scope key body).enter := by
  refine (TicketIdempotency.enter_meets _).mono ?_ ?_
  · rintro d ⟨r, rfl, hname, hhash⟩
    exact ⟨hname, hhash⟩
  · rintro a ⟨message, rfl⟩ r outcome h
    cases h

/-- Every step keeps requests and pages linked. -/
theorem Linked.step (h : Linked platform s) (hs : Stepped platform m s s') :
    Linked platform s' := by
  intro page' hpage' key body op hawaits
  rcases hs.pages page' hpage' key body op hawaits with ⟨page, hpage, hold⟩ | ⟨rfl, scope, hserver⟩
  · obtain ⟨prog, hprog, hbelongs⟩ := h page hpage key body op hold
    have hstep := hs.server.step (G := Guard.any) (fun _ _ _ _ _ _ => trivial)
      (fun _ _ => trivial) (fun _ _ => trivial) (ok_call (fun _ _ _ => trivial) s.server)
    rcases hstep with heq | hstep
    · rw [heq]
      exact ⟨prog, hprog, hbelongs⟩
    · refine hstep.meets_at (J := fun _ => AskBelongs platform key body)
        (K := fun _ => AnswerBelongs platform key body) ⟨prog, hprog, hbelongs⟩ ?_
        ⟨fun _ hd => hd, fun _ ha => ha⟩
      intro ch d w' prog' hd hdecide
      have hplain := (TicketIdempotency.carried_of_decide hdecide).plain
      refine hplain.mono (fun d' hd' => ?_) ?_
      · unfold AskBelongs
        rw [hd'.1]
        exact hd
      · rintro a ⟨outcome, rfl⟩ r outcome' heq
        cases heq
        exact hd
  · rw [hserver]
    refine ⟨_, ?_, requestOf_belongs scope key body⟩
    rw [List.getElem?_append_right (le_refl _), Nat.sub_self]
    rfl

/-- What a page has got was asked for with a key of its scope. -/
def Earned (s : State) : Prop :=
  ∀ f ∈ s.finished, ∃ round, (⟨f.key, f.scope, round⟩ : Issued) ∈ s.issued

/-- Every step keeps the responses earned. -/
theorem Earned.step (h : Earned s) (hkept : Kept platform s) (hs : Stepped platform m s s') :
    Earned s' := by
  rcases hs.finished with heq | ⟨page, hpage, key, body, op, answer, response, hawaits, -, -, heq⟩
  · intro f hf
    rw [heq] at hf
    obtain ⟨round, hissued⟩ := h f hf
    exact ⟨round, hs.issued hissued⟩
  · intro f hf
    rw [heq] at hf
    rcases List.mem_cons.mp hf with rfl | hold
    · obtain ⟨round, attempt, hstage⟩ := hawaits
      have hheld : page.stage.held = some (key, round) := by
        rw [hstage]
        rfl
      exact ⟨round, hs.issued (hkept.pages page hpage key round hheld)⟩
    · obtain ⟨round, hissued⟩ := h f hold
      exact ⟨round, hs.issued hissued⟩

/-! ## One order under one key -/

/-- The record that expires with the move. -/
def Move.expires : Move → Option String
  | .expire name => some name
  | _ => none

/-- A request has been sent under the key. -/
def SentUnder (key : Key) (s s' : State) : Prop :=
  s'.sent.length ≠ s.sent.length ∧ ∀ sent ∈ s'.sent.head?, sent.key = key

/-- The last request tells. -/
instance (s s' : State) : Decidable (SentUnder key s s') :=
  inferInstanceAs (Decidable (_ ∧ _))

/-- The record of the key does not expire, and no request is sent under it while another
    one of it stands before its claim. -/
def InTurn (platform : Platform) (key : Key) (s : State) (m : Move) : Prop :=
  (∀ name ∈ m.expires, name ≠ platform.redisKey key) ∧
  ∀ s' ∈ next platform s m, SentUnder key s s' → Clear (platform.redisKey key) s.server

/-- A run can be checked for requests in turn. -/
instance (s : State) (m : Move) : Decidable (InTurn platform key s m) :=
  inferInstanceAs (Decidable (_ ∧ _))

/-- The name belongs to a checkout of this tab. -/
def Mine (platform : Platform) (name : String) (s : State) : Prop :=
  name ∉ s.others ∧
    ∀ issued ∈ s.issued, platform.redisKey issued.key = name → issued.scope.route = .order

/-- What is of this tab was so a step before. -/
theorem Mine.before (h : Mine platform name s') (hs : Stepped platform m s s') :
    Mine platform name s :=
  ⟨fun hmem => h.1 (hs.others hmem), fun issued hissued => h.2 issued (hs.issued hissued)⟩

/-- What the pages have got under the name is the response of the key. -/
def Ordered (platform : Platform) (name : String) (s : State) : Prop :=
  ∃ won, Served name won s.server ∧ ∀ f ∈ s.finished, platform.redisKey f.key = name →
    won = some (platform.requestHash f.body, f.response)

/-- A step in turn keeps the requests in order. -/
theorem Ordered.step (h : Ordered platform (platform.redisKey key) s)
    (hlinked : Linked platform s) (hturn : InTurn platform key s m)
    (hs : next platform s m = some s') (hmoved : Stepped platform m s s')
    (hmine : Mine platform (platform.redisKey key) s') :
    Ordered platform (platform.redisKey key) s' := by
  obtain ⟨won, hserved, hfinished⟩ := h
  have hstep := hmoved.server.step (G := inTurn (platform.redisKey key)) ?_ ?_ ?_
    (ok_call (fun _ _ _ => trivial) s.server)
  · -- the server keeps the response of the key
    obtain ⟨won', hserved', hwon⟩ : ∃ won',
        Served (platform.redisKey key) won' s'.server ∧ (won.isSome → won' = won) := by
      rcases hstep with heq | hstep
      · rw [heq]
        exact ⟨won, hserved, fun _ => rfl⟩
      · exact hserved.step hstep
    -- once the key has a response it keeps it
    have hkeep : ∀ body response, won = some (platform.requestHash body, response) →
        won' = some (platform.requestHash body, response) := by
      intro body response heq
      rw [hwon (by rw [heq]; rfl)]
      exact heq
    refine ⟨won', hserved', fun f hf hname => ?_⟩
    rcases hmoved.finished with heq | ⟨page, hpage, key', body, op, answer, response, hawaits, hop,
      ⟨r, hbrings⟩, heq⟩
    · rw [heq] at hf
      exact hkeep f.body f.response (hfinished f hf hname)
    · rw [heq] at hf
      rcases List.mem_cons.mp hf with rfl | hold
      · -- the page has waited for its own request
        obtain ⟨prog, hprog, hbelongs⟩ := hlinked page hpage key' body op hawaits
        rw [hop] at hprog
        cases hprog
        have hknows := hserved.knows _ (List.mem_of_getElem? hop)
        rcases hbrings with rfl | rfl
        · obtain ⟨hr, hhash⟩ := hbelongs r _ rfl
          refine hkeep body response ?_
          rw [← hhash]
          exact hknows (hr.trans hname)
        · obtain ⟨hr, hhash⟩ := hbelongs r _ rfl
          refine hkeep body response ?_
          rw [← hhash]
          exact hknows (hr.trans hname)
      · exact hkeep f.body f.response (hfinished f hold hname)
  · -- a request under the name is one under the key
    intro scope key' round body hissued hsent hname
    obtain rfl : key' = key := redisKey_inj hname
    refine ⟨hmine.2 _ hissued rfl, hturn.2 s' hs ⟨?_, ?_⟩⟩
    · rw [hsent]
      simp
    · intro sent hmem
      rw [hsent] at hmem
      cases hmem
      rfl
  · intro request hmem hname
    rw [hname] at hmem
    exact absurd hmem hmine.1
  · intro name hm
    refine hturn.1 name ?_
    rw [hm]
    rfl

/-- The invariant of runs in turn. -/
structure InOrder (platform : Platform) (key : Key) (s : State) : Prop where
  kept : Kept platform s
  linked : Linked platform s
  earned : Earned s
  ordered : Mine platform (platform.redisKey key) s → Ordered platform (platform.redisKey key) s

/-- The opened tab has sent nothing. -/
theorem opened_inOrder : InOrder platform key opened where
  kept := opened_kept
  linked _ h := by cases h
  earned _ h := by cases h
  ordered _ := ⟨none, TicketIdempotency.unused_served _, fun _ h => by cases h⟩

/-- A step in turn keeps everything in order. -/
theorem InOrder.next (h : InOrder platform key s) (hturn : InTurn platform key s m)
    (hs : next platform s m = some s') : InOrder platform key s' := by
  have hmoved := stepped_of_next h.kept hs
  refine ⟨h.kept.next hs, h.linked.step hmoved, h.earned.step h.kept hmoved, fun hmine => ?_⟩
  exact (h.ordered (hmine.before hmoved)).step h.linked hturn hs hmoved hmine

/-- **One key, one order.**  Take a run in which no request is sent under the key while
    another one of it stands before its claim, and its record does not expire.  However often
    the checkout was repeated, over lost connections, reloads, failing handlers and pages
    left behind, the handler has responded once under the key, and every page that has got
    something under it has got this response, for a body with the one hash. -/
theorem one_order_per_key (hrun : RunIf (next platform) (InTurn platform key) opened s)
    (concertId : ConcertId) (a : Finished) (ha : a ∈ s.finished) (hkey : a.key = key)
    (hscope : a.scope = .checkout concertId) :
    handlerResponses (platform.redisKey key) s.server.world = 1 ∧
    ∀ b ∈ s.finished, b.key = key →
      b.response = a.response ∧ platform.requestHash b.body = platform.requestHash a.body := by
  have hinv : InOrder platform key s :=
    hrun.inv (I := fun s => InOrder platform key s) (fun _ _ _ h hc hs => h.next hc hs)
      opened_inOrder
  obtain ⟨round, hissued⟩ := hinv.earned a ha
  have hmine : Mine platform (platform.redisKey key) s := by
    refine ⟨?_, fun issued hmem hname => ?_⟩
    · rw [← hkey]
      exact hinv.kept.foreign _ hissued
    · rw [← hkey] at hname
      rw [hinv.kept.names issued hmem _ hissued hname, hscope]
      rfl
  obtain ⟨won, hserved, hfinished⟩ := hinv.ordered hmine
  have hwon := hfinished a ha (by rw [hkey])
  refine ⟨?_, fun b hb hbkey => ?_⟩
  · rw [hserved.responses, hwon]
    rfl
  · have hwon' := hfinished b hb (by rw [hbkey])
    rw [hwon] at hwon'
    have hpair := Prod.mk.inj (Option.some.inj hwon')
    exact ⟨hpair.2.symm, hpair.1.symm⟩

/-- The handler throws at first, then the answer of the second request is lost. -/
def thirdTime : List Move :=
  [.select "c1" ⟨"t1", "VIP", 1⟩, .openCheckout "c1" k1] ++ pressed 0 ++
    [.serve 0 {}, .serve 0 {}, .serve 0 {}, .serve 0 {}, .answer 0 false] ++ pressed 0 ++
    [.serve 1 {}, .serve 1 {}, .serve 1 { response := some ⟨"o1", some "url"⟩ }, .serve 1 {},
      .disconnect 0] ++ pressed 0 ++ [.serve 2 {}, .answer 0 false]

/-- The third request with the key is answered with the first one's order. -/
theorem one_order_per_key_thirdTime :
    ∃ s, RunIf (next customer) (InTurn customer k1) opened s ∧
      ∃ a ∈ s.finished, (a.key = k1 ∧ a.scope = .checkout "c1" ∧ s.sent.length = 3) ∧
        handlerResponses (customer.redisKey k1) s.server.world = 1 ∧
        ∀ b ∈ s.finished, b.key = k1 →
          b.response = a.response ∧ customer.requestHash b.body = customer.requestHash a.body := by
  have hfinished : ∃ s, RunIf (next customer) (InTurn customer k1) opened s ∧
      ∃ a ∈ s.finished, a.key = k1 ∧ a.scope = .checkout "c1" ∧ s.sent.length = 3 :=
    exists_runIf thirdTime _ (by decide +kernel)
  obtain ⟨s, hrun, a, ha, hkey, hscope, hsent⟩ := hfinished
  exact ⟨s, hrun, a, ha, ⟨hkey, hscope, hsent⟩, one_order_per_key hrun "c1" a ha hkey hscope⟩

/-! ## A settled record decides -/

/-- The order whose payment is settled by the move. -/
def Move.settles : Move → Option OrderId
  | .settle orderId _ => some orderId
  | _ => none

/-- The record of the key does not expire, and the payment it is for is not settled. -/
def Undisturbed (platform : Platform) (scope : Scope) (key : Key) (_ : State) (m : Move) : Prop :=
  (∀ name ∈ m.expires, name ≠ platform.redisKey key) ∧
  ∀ orderId ∈ m.settles, scope ≠ .payment orderId

/-- A run can be checked for a key left alone. -/
instance (s : State) (m : Move) : Decidable (Undisturbed platform scope key s m) :=
  inferInstanceAs (Decidable (_ ∧ _))

/-- The scope has this key, its record is settled, and nothing is under way: no request of
    the key at the server, and no page of the scope that holds a key. -/
structure Stranded (platform : Platform) (scope : Scope) (key : Key)
    (record : TicketIdempotency.IdempotencyRecord Response) (s : State) : Prop where
  stored : s.tab.sessionKeys scope = some key
  record : s.server.world.records (platform.redisKey key) = some record
  quiet : ∀ prog ∈ s.server.ops,
    prog.Meets (fun d => d.params.redisKey ≠ platform.redisKey key) fun _ => True
  pages : ∀ page ∈ s.tab.pages, page.scope = scope → page.stage.held = none

/-- What has been got since, and whether the scope still has its key. -/
structure Decided (platform : Platform) (scope : Scope) (key : Key) (round : Nat)
    (record : TicketIdempotency.IdempotencyRecord Response)
    (verdict : Option (RequestHash × Response)) (before : State) (new : List Finished)
    (s : State) : Prop where
  kept : Kept platform s
  linked : Linked platform s
  issued : (⟨key, scope, round⟩ : Issued) ∈ s.issued
  settled : Settled (platform.redisKey key) scope.route record verdict before.server.ops.length
    s.server
  grown : before.server.ops.length ≤ s.server.ops.length
  waits : ∀ page ∈ s.tab.pages, ∀ body op, page.stage.Awaits key body op →
    before.server.ops.length ≤ op
  finished : s.finished = new ++ before.finished
  told : ∀ f ∈ new, f.key = key → verdict = some (platform.requestHash f.body, f.response)
  first : ∀ later f earlier, new = later ++ f :: earlier → f.scope = scope →
    (∀ g ∈ earlier, g.scope ≠ scope) → f.key = key
  own : (∀ f ∈ new, f.scope ≠ scope) → s.tab.sessionKeys scope = some key ∧
    ∀ page ∈ s.tab.pages, page.scope = scope →
      ∀ key' round', page.stage.held = some (key', round') → key' = key

variable {round : Nat} {record : TicketIdempotency.IdempotencyRecord Response}
  {verdict : Option (RequestHash × Response)} {new : List Finished}

/-- A page of another scope does not wait under the key. -/
theorem Kept.scope_of_awaits (hkept : Kept platform s)
    (hissued : (⟨key, scope, round⟩ : Issued) ∈ s.issued) {page : Page}
    (hpage : page ∈ s.tab.pages) {body : RequestBody} {op : Nat}
    (hawaits : page.stage.Awaits key body op) : page.scope = scope := by
  obtain ⟨round', attempt, hstage⟩ := hawaits
  have hmine := hkept.pages page hpage key round' (by rw [hstage]; rfl)
  exact (Issued.mk.inj (hkept.names _ hmine _ hissued rfl)).2.1

/-- A stranded key is decided by its record from here on. -/
theorem Stranded.decided (h : Stranded platform scope key record s) (hkept : Kept platform s)
    (hlinked : Linked platform s) (hsettles : Settles scope.route record verdict) :
    Decided platform scope key (s.rounds scope) record verdict s [] s where
  kept := hkept
  linked := hlinked
  issued := (hkept.session scope key).mp h.stored
  settled := by
    refine ⟨hsettles, h.record, fun prog hprog => ?_, fun i hi prog hprog => ?_⟩
    · exact (h.quiet prog hprog).mono (fun d hd hname => absurd hname hd) fun _ _ => trivial
    · have hlt := (List.getElem?_eq_some_iff.mp hprog).1
      omega
  grown := le_refl _
  waits page hpage body op hawaits := by
    have hscope := hkept.scope_of_awaits ((hkept.session scope key).mp h.stored) hpage hawaits
    obtain ⟨round', attempt, hstage⟩ := hawaits
    have hnone := h.pages page hpage hscope
    rw [hstage] at hnone
    cases hnone
  finished := rfl
  told f hf := by cases hf
  first later f earlier heq := by
    have hlength := congrArg List.length heq
    simp at hlength
  own _ := by
    refine ⟨h.stored, fun page hpage hscope key' round' hheld => ?_⟩
    rw [h.pages page hpage hscope] at hheld
    cases hheld

/-- The operations of the server only grow. -/
theorem length_of_step {G : TicketIdempotency.Condition Response}
    {p q : TicketIdempotency.State Response} (hs : interceptor.Step G p q) :
    p.ops.length ≤ q.ops.length := by
  cases hs <;> simp

/-- Before a checkout of the scope is through, its pages hold the stored key. -/
theorem Decided.own_next {before : State}
    (h : Decided platform scope key round record verdict before new s)
    (hlives : Undisturbed platform scope key s m) (hs : next platform s m = some s')
    (hnew : ∀ f ∈ new, f.scope ≠ scope)
    (hthrough : ∀ f, s'.finished = f :: s.finished → f.scope ≠ scope) :
    s'.tab.sessionKeys scope = some key ∧
    ∀ page ∈ s'.tab.pages, page.scope = scope →
      ∀ key' round', page.stage.held = some (key', round') → key' = key := by
  obtain ⟨hstored, hheld⟩ := h.own hnew
  have hstored' : s'.tab.sessionKeys scope = some key := by
    rcases keeps_of_next hs scope key hstored with hkeep | ⟨f, heq, hscope, -⟩ | ⟨orderId, c, rfl, rfl⟩
    · exact hkeep
    · exact absurd hscope (hthrough f heq)
    · exact absurd rfl (hlives.2 orderId rfl)
  refine ⟨hstored', fun page' hpage' hscope key' round' hheld' => ?_⟩
  rcases holds_of_next h.kept hs page' hpage' key' round' hheld' with ⟨page, hpage, hsame, hold⟩ | hnow
  · exact hheld page hpage (hsame.trans hscope) key' round' hold
  · rw [hscope, hstored'] at hnow
    exact (Option.some.inj hnow).symm

/-- A step leaves the decision, and adds at most one response to it. -/
theorem Decided.next {before : State}
    (h : Decided platform scope key round record verdict before new s)
    (hlives : Undisturbed platform scope key s m) (hs : next platform s m = some s') :
    ∃ new', (new' = new ∨ ∃ f, new' = f :: new ∧ s'.finished = f :: s.finished) ∧
      Decided platform scope key round record verdict before new' s' := by
  have hmoved := stepped_of_next h.kept hs
  have hkept := h.kept.next hs
  have hissued := hmoved.issued h.issued
  have hstep := hmoved.server.step (G := onRoute (platform.redisKey key) scope.route) ?_ ?_ ?_
    (ok_call (fun _ _ _ => trivial) s.server)
  · have hserver : Settled (platform.redisKey key) scope.route record verdict
        before.server.ops.length s'.server ∧ s.server.ops.length ≤ s'.server.ops.length := by
      rcases hstep with heq | hstep
      · rw [heq]
        exact ⟨h.settled, le_refl _⟩
      · exact ⟨h.settled.step hstep, length_of_step hstep⟩
    have hwaits : ∀ page ∈ s'.tab.pages, ∀ body op, page.stage.Awaits key body op →
        before.server.ops.length ≤ op := by
      intro page' hpage' body op hawaits
      rcases hmoved.pages page' hpage' key body op hawaits with ⟨page, hpage, hold⟩ | ⟨rfl, -⟩
      · exact h.waits page hpage body op hold
      · exact h.grown
    have hgrown := le_trans h.grown hserver.2
    rcases hmoved.finished with heq | ⟨page, hpage, key', body, op, answer, response, hawaits, hop,
      ⟨r, hbrings⟩, heq⟩
    · refine ⟨new, .inl rfl, hkept, h.linked.step hmoved, hissued, hserver.1, hgrown, hwaits,
        heq.trans h.finished, h.told, h.first, fun hnew => ?_⟩
      refine h.own_next hlives hs hnew fun f hf => ?_
      rw [heq] at hf
      exact absurd (congrArg List.length hf) (by simp)
    · refine ⟨_, .inr ⟨_, rfl, heq⟩, hkept, h.linked.step hmoved, hissued, hserver.1, hgrown,
        hwaits, ?_, fun f hf hkey => ?_, fun later f earlier hsplit hscope hearlier => ?_,
        fun hnew => ?_⟩
      · rw [heq, h.finished]
        rfl
      · rcases List.mem_cons.mp hf with rfl | hold
        · -- the answer came after the record was settled
          obtain rfl : key' = key := hkey
          have htold := h.settled.told op (h.waits page hpage body op hawaits) _ hop
          obtain ⟨prog, hprog, hbelongs⟩ := h.linked page hpage key' body op hawaits
          rw [hop] at hprog
          cases hprog
          rcases hbrings with rfl | rfl
          · exact absurd (hbelongs r _ rfl).1 htold
          · obtain ⟨hr, hhash⟩ := hbelongs r _ rfl
            rw [← hhash]
            exact htold hr
        · exact h.told f hold hkey
      · cases later with
        | nil =>
            -- the first one to be through: its page holds the stored key
            obtain ⟨rfl, rfl⟩ := List.cons.inj hsplit
            obtain ⟨round', attempt, hstage⟩ := hawaits
            refine (h.own hearlier).2 page hpage hscope key' round' ?_
            rw [hstage]
            rfl
        | cons g later =>
            exact h.first later f earlier (List.cons.inj hsplit).2 hscope hearlier
      · refine h.own_next hlives hs (fun f hf => hnew f (List.mem_cons_of_mem _ hf)) fun f hf => ?_
        rw [heq] at hf
        obtain ⟨rfl, -⟩ := List.cons.inj hf
        exact hnew _ List.mem_cons_self
  · intro scope' key' round' body hissued' _ hname
    obtain rfl : key' = key := redisKey_inj hname
    have hsame := hkept.names _ hissued' _ hissued rfl
    show scope'.route = scope.route
    rw [(Issued.mk.inj hsame).2.1]
  · intro request hmem hname
    rw [hname] at hmem
    exact absurd hmem (hkept.foreign _ hissued)
  · intro name hm
    refine hlives.1 name ?_
    rw [hm]
    rfl

/-- So does a whole run. -/
theorem decided_run {before : State}
    (h : Decided platform scope key round record verdict before [] before)
    (hrun : RunIf (next platform) (Undisturbed platform scope key) before s) :
    ∃ new, Decided platform scope key round record verdict before new s := by
  refine hrun.inv (I := fun s =>
    ∃ new, Decided platform scope key round record verdict before new s) ?_ ⟨[], h⟩
  rintro s₁ m s₂ ⟨new, hdecided⟩ hlives hs
  obtain ⟨new', -, hdecided'⟩ := hdecided.next hlives hs
  exact ⟨new', hdecided'⟩

/-- Requests and pages are linked in every run. -/
theorem linked_run (hrun : Run (next platform) (fun _ => True) opened s) : Linked platform s := by
  have hboth : Kept platform s ∧ Linked platform s := by
    refine hrun.inv (I := fun s => Kept platform s ∧ Linked platform s) ?_
      ⟨opened_kept, fun _ h => by cases h⟩
    rintro s₁ m s₂ ⟨hkept, hlinked⟩ - hs
    exact ⟨hkept.next hs, hlinked.step (stepped_of_next hkept hs)⟩
  exact hboth.2

/-- The oldest entry with a property. -/
theorem exists_oldest {α : Type} {P : α → Prop} {l : List α} (h : ∃ a ∈ l, P a) :
    ∃ later a earlier, l = later ++ a :: earlier ∧ P a ∧ ∀ b ∈ earlier, ¬ P b := by
  induction l with
  | nil =>
      obtain ⟨a, ha, -⟩ := h
      cases ha
  | cons x xs ih =>
      by_cases hxs : ∃ a ∈ xs, P a
      · obtain ⟨later, a, earlier, rfl, ha, hearlier⟩ := ih hxs
        exact ⟨x :: later, a, earlier, rfl, ha, hearlier⟩
      · obtain ⟨a, ha, hP⟩ := h
        rcases List.mem_cons.mp ha with rfl | hold
        · exact ⟨[], a, xs, rfl, hP, fun b hb hPb => hxs ⟨b, hb, hPb⟩⟩
        · exact absurd ⟨a, hold, hP⟩ hxs

/-- **A settled order decides.**  The order of a checkout has been made, and the tab has not
    got it: its key is still stored, its record is `COMPLETED`, no request of the key is at
    the server and no page of the concert holds a key.  Until the record expires, the first
    checkout of the concert to get through is one with the request hash of this order, and
    it gets this order; one with another hash does not get through. -/
theorem settled_order_decides {concertId : ConcertId} {requestHash : RequestHash}
    {response : Response} (hreach : Run (next platform) (fun _ => True) opened s₀)
    (hstranded : Stranded platform (.checkout concertId) key
      ⟨.completed, requestHash, some response⟩ s₀)
    (hrun : RunIf (next platform) (Undisturbed platform (.checkout concertId) key) s₀ s) :
    ∃ new, s.finished = new ++ s₀.finished ∧
      (∀ later f earlier, new = later ++ f :: earlier → f.scope = .checkout concertId →
        (∀ g ∈ earlier, g.scope ≠ .checkout concertId) →
        platform.requestHash f.body = requestHash ∧ f.response = response) ∧
      ((∀ f ∈ new, f.scope ≠ .checkout concertId) →
        s.tab.sessionKeys (.checkout concertId) = some key) := by
  have hdecided := hstranded.decided (kept_run hreach) (linked_run hreach) (.completed _ _)
  obtain ⟨new, hnew⟩ := decided_run hdecided hrun
  refine ⟨new, hnew.finished, fun later f earlier hsplit hscope hearlier => ?_,
    fun hnone => (hnew.own hnone).1⟩
  have hkey := hnew.first later f earlier hsplit hscope hearlier
  have hmem : f ∈ new := by
    rw [hsplit]
    exact List.mem_append_right _ List.mem_cons_self
  have hpair := Prod.mk.inj (Option.some.inj (hnew.told f hmem hkey))
  exact ⟨hpair.1.symm, hpair.2.symm⟩

/-- What `Stranded` says, decidably. -/
def strandedWith (scope : Scope) (key : Key)
    (record : TicketIdempotency.IdempotencyStatus × RequestHash × Option Response) (s : State) :
    Prop :=
  s.tab.sessionKeys scope = some key ∧
  (s.server.world.records (customer.redisKey key)).map
    (fun r => (r.status, r.requestHash, r.responseBody)) = some record ∧
  (∀ prog ∈ s.server.ops,
    prog.Meets (fun d => d.params.redisKey ≠ customer.redisKey key) fun _ => True) ∧
  ∀ page ∈ s.tab.pages, page.scope = scope → page.stage.held = none

instance (scope : Scope) (key : Key)
    (record : TicketIdempotency.IdempotencyStatus × RequestHash × Option Response) (s : State) :
    Decidable (strandedWith scope key record s) :=
  inferInstanceAs (Decidable (_ ∧ _ ∧ _ ∧ _))

/-- What the search for a stranded key finds. -/
theorem strandedWith.stranded
    {record : TicketIdempotency.IdempotencyStatus × RequestHash × Option Response}
    (h : strandedWith scope key record s) :
    Stranded customer scope key ⟨record.1, record.2.1, record.2.2⟩ s := by
  obtain ⟨hstored, hrecord, hquiet, hpages⟩ := h
  obtain ⟨⟨status, requestHash, responseBody⟩, hrec, rfl⟩ := Option.map_eq_some_iff.mp hrecord
  exact ⟨hstored, hrec, hquiet, hpages⟩

/-- Another selection is answered with the order of the first. -/
theorem settled_order_decides_otherSelection :
    ∃ s₀ s, Run (next customer) (fun _ => True) opened s₀ ∧
      RunIf (next customer) (Undisturbed customer (.checkout "c1") k1) s₀ s ∧
      (s.sent.length = 2 ∧ s.finished = []) ∧
      ∃ new, s.finished = new ++ s₀.finished ∧
        (∀ later f earlier, new = later ++ f :: earlier → f.scope = .checkout "c1" →
          (∀ g ∈ earlier, g.scope ≠ .checkout "c1") →
          customer.requestHash f.body = ⟨"h1", digest_ne⟩ ∧ f.response = ⟨"o1", some "url"⟩) ∧
        ((∀ f ∈ new, f.scope ≠ .checkout "c1") →
          s.tab.sessionKeys (.checkout "c1") = some k1) := by
  have hlost : ∃ s₀, Run (next customer) (fun _ => True) opened s₀ ∧
      strandedWith (.checkout "c1") k1
        (.completed, ⟨"h1", digest_ne⟩, some ⟨"o1", some "url"⟩) s₀ ∧
      ((execIf (next customer) (Undisturbed customer (.checkout "c1") k1) s₀ otherSelection).any
        fun s => decide (s.sent.length = 2 ∧ s.finished = [])) = true :=
    exists_run answerLost (fun _ _ => trivial) _ (by decide +kernel)
  obtain ⟨s₀, hreach, hstranded, hexec⟩ := hlost
  obtain ⟨s, hrun, hsent⟩ := exists_runIf otherSelection _ hexec
  exact ⟨s₀, s, hreach, hrun, hsent, settled_order_decides hreach hstranded.stranded hrun⟩

/-- **A failed payment stays failed.**  The creation of a payment has failed: its record is
    `FAILED`, its key is still stored, no request of the key is at the server and no page of
    the payment holds a key.  Until the record expires, or the tab learns that the order is
    settled, no page of this payment gets a payment url, and the key stays stored. -/
theorem failed_payment_stays {orderId : OrderId} {requestHash : RequestHash}
    {responseBody : Option Response} (hreach : Run (next platform) (fun _ => True) opened s₀)
    (hstranded : Stranded platform (.payment orderId) key
      ⟨.failed, requestHash, responseBody⟩ s₀)
    (hrun : RunIf (next platform) (Undisturbed platform (.payment orderId) key) s₀ s) :
    ∃ new, s.finished = new ++ s₀.finished ∧ (∀ f ∈ new, f.scope ≠ .payment orderId) ∧
      s.tab.sessionKeys (.payment orderId) = some key := by
  have hdecided := hstranded.decided (kept_run hreach) (linked_run hreach) (.failed _ _)
  obtain ⟨new, hnew⟩ := decided_run hdecided hrun
  have hnone : ∀ f ∈ new, f.scope ≠ .payment orderId := by
    intro f hf hscope
    obtain ⟨later, g, earlier, hsplit, hg, hearlier⟩ :=
      exists_oldest (P := fun f => f.scope = .payment orderId) ⟨f, hf, hscope⟩
    have hmem : g ∈ new := by
      rw [hsplit]
      exact List.mem_append_right _ List.mem_cons_self
    -- it holds the stored key, under which nothing is got
    have htold := hnew.told g hmem (hnew.first later g earlier hsplit hg hearlier)
    cases htold
  exact ⟨new, hnew.finished, hnone, (hnew.own hnone).1⟩

/-- The creation of a payment fails. -/
def paymentFails : List Move :=
  [.openPayment "o1", .press 0 k1 true true, .serve 0 {}, .serve 0 {}, .serve 0 {}, .serve 0 {},
    .answer 0 false]

/-- The button is pressed again. -/
def pressedAgain : List Move := [.press 0 k2 true true, .serve 1 {}, .answer 0 false]

/-- The button pressed again gets no payment url. -/
theorem failed_payment_stays_pressedAgain :
    ∃ s₀ s, Run (next customer) (fun _ => True) opened s₀ ∧
      RunIf (next customer) (Undisturbed customer (.payment "o1") k1) s₀ s ∧
      s.sent.length = 2 ∧
      ∃ new, s.finished = new ++ s₀.finished ∧ (∀ f ∈ new, f.scope ≠ .payment "o1") ∧
        s.tab.sessionKeys (.payment "o1") = some k1 := by
  have hfailed : ∃ s₀, Run (next customer) (fun _ => True) opened s₀ ∧
      strandedWith (.payment "o1") k1 (.failed, ⟨"h2", digest_ne'⟩, none) s₀ ∧
      ((execIf (next customer) (Undisturbed customer (.payment "o1") k1) s₀ pressedAgain).any
        fun s => decide (s.sent.length = 2)) = true :=
    exists_run paymentFails (fun _ _ => trivial) _ (by decide +kernel)
  obtain ⟨s₀, hreach, hstranded, hexec⟩ := hfailed
  obtain ⟨s, hrun, hsent⟩ := exists_runIf pressedAgain _ hexec
  exact ⟨s₀, s, hreach, hrun, hsent, failed_payment_stays hreach hstranded.stranded hrun⟩

end TicketCheckout
