import TicketBox.CheckoutProofs
import TicketBox.IdempotencyRetry

/-! # What one move of the tab does

    A move starts a request, lets the server go on, or leaves it alone; a page waits for the
    request it has sent, and what it has got in the end is the answer to it.  The inversion
    (`stepped_of_next`) says this once for all moves. -/

namespace TicketCheckout

open Interleave Machine
open TicketIdempotency (RequestHash Route Answer Outcome Choice)

variable {platform : Platform} {s s' : State} {scope : Scope} {key uuid : Key} {round : Nat}
  {page : Page} {stage : Stage} {i op : Nat} {body : RequestBody} {m : Move}

/-- The stage waits for request `op`. -/
def Stage.Awaits (stage : Stage) (key : Key) (body : RequestBody) (op : Nat) : Prop :=
  ∃ round attempt, stage = .waiting key round body attempt op

/-- The request of a page, as the server gets it. -/
def Platform.requestOf (platform : Platform) (scope : Scope) (key : Key) (body : RequestBody) :
    TicketIdempotency.Request :=
  ⟨scope.route, platform.userId, key.1, platform.requestHash body⟩

/-- The answer that brings a response. -/
def Brings (answer : Answer Response) (response : Response) : Prop :=
  ∃ r, answer = .answered r (.processed response) ∨ answer = .answered r (.cached (some response))

/-- What happens to the server. -/
inductive ServerMoved (platform : Platform) (m : Move) (s s' : State) : Prop where
  | quiet : s'.server = s.server → ServerMoved platform m s s'
  | started (scope : Scope) (key : Key) (round : Nat) (body : RequestBody) :
      (⟨key, scope, round⟩ : Issued) ∈ s'.issued →
      s'.sent = ⟨scope, key, round, body⟩ :: s.sent →
      s'.server = ⟨s.server.world, s.server.ops ++ [(platform.requestOf scope key body).enter]⟩ →
      ServerMoved platform m s s'
  | served (op : Nat) (ch : Choice Response) :
      interceptor.next s.server (.step op 0 ch) = some s'.server → ServerMoved platform m s s'
  | expired (name : String) : m = .expire name →
      interceptor.next s.server (.env ⟨name⟩) = some s'.server → ServerMoved platform m s s'
  | other (request : TicketIdempotency.Request) :
      request.recordName ∈ s'.others →
      interceptor.next s.server (.start request) = some s'.server → ServerMoved platform m s s'

/-- The effects of a move, as far as the server and the keys are concerned. -/
structure Stepped (platform : Platform) (m : Move) (s s' : State) : Prop where
  server : ServerMoved platform m s s'
  pages : ∀ page' ∈ s'.tab.pages, ∀ key body op, page'.stage.Awaits key body op →
    (∃ page ∈ s.tab.pages, page.stage.Awaits key body op) ∨
    (op = s.server.ops.length ∧ ∃ scope, s'.server
      = ⟨s.server.world, s.server.ops ++ [(platform.requestOf scope key body).enter]⟩)
  finished : s'.finished = s.finished ∨
    ∃ page ∈ s.tab.pages, ∃ key body op answer response, page.stage.Awaits key body op ∧
      s.server.ops[op]? = some (.ret answer) ∧ Brings answer response ∧
      s'.finished = ⟨page.scope, key, body, response⟩ :: s.finished
  issued : s.issued ⊆ s'.issued
  others : s.others ⊆ s'.others

/-! ## Moves of the pages -/

/-- A page that waits awaits its own request only. -/
theorem awaits_waiting {attempt : Nat} {key' : Key} {body' : RequestBody} {op' : Nat}
    (h : Stage.Awaits (.waiting key round body attempt op) key' body' op') :
    key' = key ∧ body' = body ∧ op' = op := by
  obtain ⟨round', attempt', heq⟩ := h
  cases heq
  exact ⟨rfl, rfl, rfl⟩

/-- Nothing has been sent and nobody has got anything. -/
theorem Stepped.idle (hserver : s'.server = s.server) (hfinished : s'.finished = s.finished)
    (hissued : s.issued ⊆ s'.issued) (hothers : s'.others = s.others)
    (hpages : ∀ page' ∈ s'.tab.pages, ∀ key body op, page'.stage.Awaits key body op →
      ∃ page ∈ s.tab.pages, page.stage.Awaits key body op) : Stepped platform m s s' where
  server := .quiet hserver
  pages page' hpage' key body op hawaits := .inl (hpages page' hpage' key body op hawaits)
  finished := .inl hfinished
  issued := hissued
  others := by
    rw [hothers]
    exact List.Subset.refl _

/-- The pages after one of them has gone to a stage. -/
theorem mem_setStage {page' : Page} (h : page' ∈ (s.setStage i page stage).tab.pages) :
    page' ∈ s.tab.pages ∨ page'.stage = stage := by
  rcases List.mem_or_eq_of_mem_set h with hold | rfl
  · exact .inl hold
  · exact .inr rfl

/-- A page goes to a stage in which it waits for nothing. -/
theorem Stepped.setStage (hstage : ∀ key body op, ¬ stage.Awaits key body op) :
    Stepped platform m s (s.setStage i page stage) := by
  refine .idle rfl rfl (List.Subset.refl _) rfl fun page' hpage' key body op hawaits => ?_
  rcases mem_setStage hpage' with hold | heq
  · exact ⟨page', hold, hawaits⟩
  · rw [heq] at hawaits
    exact absurd hawaits (hstage key body op)

theorem not_awaits_review {key : Key} : ¬ Stage.Awaits .review key body op := by
  rintro ⟨round, attempt, heq⟩
  cases heq

theorem not_awaits_done {key : Key} : ¬ Stage.Awaits .done key body op := by
  rintro ⟨round, attempt, heq⟩
  cases heq

theorem not_awaits_sleeping {key key' : Key} {body' : RequestBody} {attempt : Nat} :
    ¬ Stage.Awaits (.sleeping key' round body' attempt) key body op := by
  rintro ⟨round, attempt, heq⟩
  cases heq

theorem not_awaits_loading {key key' : Key} :
    ¬ Stage.Awaits (.loading key' round) key body op := by
  rintro ⟨round, attempt, heq⟩
  cases heq

/-- A request is sent from a state in which its key has been issued. -/
theorem Stepped.send {attempt : Nat} {arrives : Bool}
    (hissued : (⟨key, page.scope, round⟩ : Issued) ∈ s.issued) :
    Stepped platform m s (s.send platform i page key round body attempt arrives) := by
  unfold State.send
  split
  · refine ⟨.started page.scope key round body hissued rfl rfl, fun page' hpage' key' body' op' h => ?_,
      .inl rfl, List.Subset.refl _, List.Subset.refl _⟩
    rcases mem_setStage hpage' with hold | heq
    · exact .inl ⟨page', hold, h⟩
    · rw [heq] at h
      obtain ⟨rfl, rfl, rfl⟩ := awaits_waiting h
      exact .inr ⟨rfl, page.scope, rfl⟩
  · exact .setStage fun _ _ _ => not_awaits_review

/-- The server's step does not look at the pages. -/
theorem ServerMoved.congr {s₁ : State} (h : ServerMoved platform m s₁ s')
    (hserver : s₁.server = s.server) (hsent : s₁.sent = s.sent) : ServerMoved platform m s s' := by
  cases h with
  | quiet heq => exact .quiet (heq.trans hserver)
  | started scope key round body hmem hsent' heq =>
      rw [hsent] at hsent'
      rw [hserver] at heq
      exact .started scope key round body hmem hsent' heq
  | served op ch heq => exact .served op ch (hserver ▸ heq)
  | expired name hm heq => exact .expired name hm (hserver ▸ heq)
  | other request hmem heq => exact .other request hmem (hserver ▸ heq)

/-- The fetch of a key, then a move. -/
theorem Stepped.fetched (scope : Scope) (uuid : Key)
    (h : Stepped platform m (s.getKey scope uuid).2 s') :
    Stepped platform m s s' := by
  obtain ⟨key, s₁, hget⟩ : ∃ key s₁, s.getKey scope uuid = (key, s₁) := ⟨_, _, rfl⟩
  have hfetched := getKey_fetched s scope uuid
  rw [hget] at hfetched h
  cases hfetched with
  | cached _ _ => exact h
  | stored _ _ => exact ⟨h.server.congr rfl rfl, h.pages, h.finished, h.issued, h.others⟩
  | issued _ =>
      refine ⟨h.server.congr rfl rfl, h.pages, h.finished, ?_, h.others⟩
      exact fun a ha => h.issued (List.mem_cons_of_mem _ ha)

/-- A page gets what it asked for. -/
theorem Stepped.succeed {answer : Answer Response} {response : Response}
    (hpage : page ∈ s.tab.pages) (hawaits : page.stage.Awaits key body op)
    (hop : s.server.ops[op]? = some (.ret answer)) (hbrings : Brings answer response) :
    Stepped platform m s (s.succeed i page key body response) := by
  have hmem : ∀ page' ∈ (s.setStage i page .done).tab.pages, ∀ key body op,
      page'.stage.Awaits key body op → ∃ page ∈ s.tab.pages, page.stage.Awaits key body op := by
    intro page' hpage' key body op h
    rcases mem_setStage hpage' with hold | heq
    · exact ⟨page', hold, h⟩
    · rw [heq] at h
      exact absurd h not_awaits_done
  unfold State.succeed
  split
  · exact ⟨.quiet rfl, fun page' hpage' key' body' op' h => .inl (hmem page' hpage' key' body' op' h),
      .inr ⟨page, hpage, key, body, op, answer, response, hawaits, hop, hbrings, rfl⟩,
      List.Subset.refl _, List.Subset.refl _⟩
  · exact ⟨.quiet rfl, fun page' hpage' key' body' op' h => .inl (hmem page' hpage' key' body' op' h),
      .inr ⟨page, hpage, key, body, op, answer, response, hawaits, hop, hbrings, rfl⟩,
      List.Subset.refl _, List.Subset.refl _⟩

/-- A page that is answered has done a step. -/
theorem Stepped.answer {answer : Answer Response} {attempt : Nat} (conflicts : Bool)
    (hpage : page ∈ s.tab.pages) (hstage : page.stage = .waiting key round body attempt op)
    (hop : s.server.ops[op]? = some (.ret answer)) :
    Stepped platform m s (s.answer i page key round body attempt conflicts answer) := by
  have hreview : Stepped platform m s (s.setStage i page .review) :=
    .setStage fun _ _ _ => not_awaits_review
  have hconflict : Stepped platform m s (s.conflict i page key round body attempt) := by
    unfold State.conflict
    split
    · exact .setStage fun _ _ _ => not_awaits_sleeping
    · exact hreview
  have hreceived : ∀ response, Brings answer response →
      Stepped platform m s (s.received i page key body response) := by
    intro response hbrings
    unfold State.received
    split
    · exact hreview
    · exact .succeed hpage ⟨round, attempt, hstage⟩ hop hbrings
  unfold State.answer
  split
  · exact hreceived _ ⟨_, .inl rfl⟩
  · exact hreceived _ ⟨_, .inr rfl⟩
  · exact hreview
  · exact hconflict
  · split
    · exact hconflict
    · exact hreview
  · exact hreview

/-! ## All moves -/

/-- Every step is one of these. -/
theorem stepped_of_next (hkept : Kept platform s) (hs : next platform s m = some s') :
    Stepped platform m s s' := by
  have hrefl : ∀ {s' : State}, s'.server = s.server → s'.finished = s.finished →
      s'.issued = s.issued → s'.others = s.others →
      (∀ page' ∈ s'.tab.pages, page' ∈ s.tab.pages) → Stepped platform m s s' := by
    intro s' hserver hfinished hissued hothers hpages
    refine .idle hserver hfinished ?_ hothers fun page' hpage' key body op h => ?_
    · rw [hissued]
      exact List.Subset.refl _
    · exact ⟨page', hpages page' hpage', h⟩
  cases m with
  | select concertId selection =>
      cases hs
      exact hrefl rfl rfl rfl rfl fun _ hpage => hpage
  | openCheckout concertId uuid =>
      simp only [TicketCheckout.next] at hs
      split at hs
      · refine .fetched (.checkout concertId) uuid ?_
        split at hs
        · cases hs
          exact .idle rfl rfl (List.Subset.refl _) rfl fun page hpage key body op h => ⟨page, hpage, h⟩
        · cases hs
          refine .idle rfl rfl (List.Subset.refl _) rfl fun page' hpage' key body op h => ?_
          rcases List.mem_append.mp hpage' with hold | hnew
          · exact ⟨page', hold, h⟩
          · rw [List.mem_singleton.mp hnew] at h
            exact absurd h not_awaits_review
      · cases hs
  | openPayment orderId =>
      cases hs
      refine .idle rfl rfl (List.Subset.refl _) rfl fun page' hpage' key body op h => ?_
      rcases List.mem_append.mp hpage' with hold | hnew
      · exact ⟨page', hold, h⟩
      · rw [List.mem_singleton.mp hnew] at h
        exact absurd h not_awaits_review
  | press i uuid admitted arrives =>
      simp only [TicketCheckout.next] at hs
      split at hs
      · rename_i hfresh
        obtain ⟨page, hpage, hs⟩ := Option.bind_eq_some_iff.mp hs
        have hget := hkept.getKey hfresh page.scope
        split at hs
        · split at hs
          · split at hs
            · cases hs
              exact .fetched page.scope uuid (.setStage fun _ _ _ => not_awaits_loading)
            · cases hs
              exact hrefl rfl rfl rfl rfl fun _ hpage => hpage
          · cases hs
            exact .fetched page.scope uuid (.send hget.issued)
        · cases hs
      · cases hs
  | loaded i types arrives =>
      obtain ⟨page, hpage, hs⟩ := Option.bind_eq_some_iff.mp hs
      split at hs
      · rename_i key round concertId selection hstage hscope hselection
        have hissued := hkept.pages page (List.mem_of_getElem? hpage) key round (by rw [hstage]; rfl)
        split at hs
        · cases hs
          exact .setStage fun _ _ _ => not_awaits_review
        · cases hs
          exact .send hissued
      · cases hs
  | answer i conflicts =>
      obtain ⟨page, hpage, hs⟩ := Option.bind_eq_some_iff.mp hs
      split at hs
      · rename_i key round body attempt op hstage
        split at hs
        · rename_i answer hop
          cases hs
          exact .answer conflicts (List.mem_of_getElem? hpage) hstage hop
        · cases hs
      · cases hs
  | disconnect i =>
      obtain ⟨page, hpage, hs⟩ := Option.bind_eq_some_iff.mp hs
      split at hs
      · cases hs
        exact .setStage fun _ _ _ => not_awaits_review
      · cases hs
  | wake i arrives =>
      obtain ⟨page, hpage, hs⟩ := Option.bind_eq_some_iff.mp hs
      split at hs
      · rename_i key round body attempt hstage
        have hissued := hkept.pages page (List.mem_of_getElem? hpage) key round (by rw [hstage]; rfl)
        split at hs
        · cases hs
          exact .send hissued
        · cases hs
          exact .setStage fun _ _ _ => not_awaits_review
      · cases hs
  | reload =>
      cases hs
      refine hrefl rfl rfl rfl rfl fun page hpage => ?_
      cases hpage
  | settle orderId concertId =>
      cases concertId with
      | none =>
          cases hs
          exact hrefl rfl rfl rfl rfl fun _ hpage => hpage
      | some concertId =>
          cases hs
          exact hrefl rfl rfl rfl rfl fun _ hpage => hpage
  | serve op ch =>
      obtain ⟨server, hserver, rfl⟩ := Option.map_eq_some_iff.mp hs
      exact ⟨.served op ch hserver, fun page hpage key body op h => .inl ⟨page, hpage, h⟩, .inl rfl,
        List.Subset.refl _, List.Subset.refl _⟩
  | expire name =>
      refine ⟨.expired name rfl ?_, ?_, ?_, ?_, ?_⟩
      all_goals cases hs
      · rfl
      · exact fun page hpage key body op h => .inl ⟨page, hpage, h⟩
      · exact .inl rfl
      · exact List.Subset.refl _
      · exact List.Subset.refl _
  | other request =>
      simp only [TicketCheckout.next] at hs
      split at hs
      · obtain ⟨server, hserver, rfl⟩ := Option.map_eq_some_iff.mp hs
        exact ⟨.other request List.mem_cons_self hserver,
          fun page hpage key body op h => .inl ⟨page, hpage, h⟩, .inl rfl, List.Subset.refl _,
          List.subset_cons_self _ _⟩
      · cases hs

/-! ## The stored keys -/

/-- A stored key stays, until a checkout of its scope is through or its payment is settled. -/
def Keeps (m : Move) (s s' : State) : Prop :=
  ∀ scope key, s.tab.sessionKeys scope = some key →
    s'.tab.sessionKeys scope = some key ∨
    (∃ new, s'.finished = new :: s.finished ∧ new.scope = scope ∧
      ∃ concertId, scope = .checkout concertId) ∨
    ∃ orderId concertId, m = .settle orderId concertId ∧ scope = .payment orderId

theorem Keeps.of_eq (h : s'.tab.sessionKeys = s.tab.sessionKeys) : Keeps m s s' := by
  intro scope key hkey
  rw [h]
  exact .inl hkey

/-- Fetching a key keeps the key that a scope has. -/
theorem getKey_keeps {scope' : Scope} (hkey : s.tab.sessionKeys scope' = some key) :
    (s.getKey scope uuid).2.tab.sessionKeys scope' = some key := by
  obtain ⟨key', s₁, hget⟩ : ∃ key' s₁, s.getKey scope uuid = (key', s₁) := ⟨_, _, rfl⟩
  have hfetched := getKey_fetched s scope uuid
  rw [hget] at hfetched ⊢
  cases hfetched with
  | cached _ _ => exact hkey
  | stored _ _ => exact hkey
  | issued hnone =>
      show Function.update s.tab.sessionKeys scope (some uuid) scope' = some key
      rw [Function.update_of_ne, hkey]
      rintro rfl
      rw [hkey] at hnone
      cases hnone

/-- Sending a request leaves the storage alone. -/
theorem send_sessionKeys {attempt : Nat} {arrives : Bool} :
    (s.send platform i page key round body attempt arrives).tab.sessionKeys
      = s.tab.sessionKeys := by
  unfold State.send
  split <;> rfl

/-- Dropping a key leaves the keys of other scopes alone. -/
theorem clearKey_of_ne {scope' : Scope} (hne : scope' ≠ scope) :
    (s.clearKey scope).tab.sessionKeys scope' = s.tab.sessionKeys scope' :=
  Function.update_of_ne hne ..

/-- An answer drops only the key of its own scope. -/
theorem answer_keeps {attempt : Nat} (conflicts : Bool) (answer : Answer Response) :
    Keeps m s (s.answer i page key round body attempt conflicts answer) := by
  have hconflict : Keeps m s (s.conflict i page key round body attempt) := by
    unfold State.conflict
    split <;> exact .of_eq rfl
  have hreceived : ∀ response, Keeps m s (s.received i page key body response) := by
    intro response
    unfold State.received
    split
    · exact .of_eq rfl
    · intro scope key' hkey
      unfold State.succeed
      split
      · rename_i concertId heq
        by_cases hscope : scope = page.scope
        · exact .inr (.inl ⟨⟨page.scope, key, body, response⟩, rfl, hscope.symm, concertId,
            hscope.trans heq⟩)
        · left
          rw [← hkey]
          exact clearKey_of_ne hscope
      · exact .inl hkey
  unfold State.answer
  split
  · exact hreceived _
  · exact hreceived _
  · exact .of_eq rfl
  · exact hconflict
  · split
    · exact hconflict
    · exact .of_eq rfl
  · exact .of_eq rfl

/-- So does every step. -/
theorem keeps_of_next (hs : next platform s m = some s') : Keeps m s s' := by
  cases m with
  | select concertId selection =>
      cases hs
      exact .of_eq rfl
  | openCheckout concertId uuid =>
      simp only [TicketCheckout.next] at hs
      split at hs
      · intro scope key hkey
        split at hs
        · cases hs
          exact .inl (getKey_keeps hkey)
        · cases hs
          exact .inl (getKey_keeps hkey)
      · cases hs
  | openPayment orderId =>
      cases hs
      exact .of_eq rfl
  | press i uuid admitted arrives =>
      simp only [TicketCheckout.next] at hs
      split at hs
      · obtain ⟨page, hpage, hs⟩ := Option.bind_eq_some_iff.mp hs
        intro scope key hkey
        split at hs
        · split at hs
          · split at hs
            · cases hs
              exact .inl (getKey_keeps hkey)
            · cases hs
              exact .inl hkey
          · cases hs
            rw [send_sessionKeys]
            exact .inl (getKey_keeps hkey)
        · cases hs
      · cases hs
  | loaded i types arrives =>
      obtain ⟨page, hpage, hs⟩ := Option.bind_eq_some_iff.mp hs
      split at hs
      · split at hs
        · cases hs
          exact .of_eq rfl
        · cases hs
          exact .of_eq send_sessionKeys
      · cases hs
  | answer i conflicts =>
      obtain ⟨page, hpage, hs⟩ := Option.bind_eq_some_iff.mp hs
      split at hs
      · split at hs
        · cases hs
          exact answer_keeps conflicts _
        · cases hs
      · cases hs
  | disconnect i =>
      obtain ⟨page, hpage, hs⟩ := Option.bind_eq_some_iff.mp hs
      split at hs
      · cases hs
        exact .of_eq rfl
      · cases hs
  | wake i arrives =>
      obtain ⟨page, hpage, hs⟩ := Option.bind_eq_some_iff.mp hs
      split at hs
      · split at hs
        · cases hs
          exact .of_eq send_sessionKeys
        · cases hs
          exact .of_eq rfl
      · cases hs
  -- a reload leaves the storage of the tab
  | reload =>
      cases hs
      exact .of_eq rfl
  -- the one move that drops keys of its own: those of the order and its concert
  | settle orderId concertId =>
      intro scope key hkey
      by_cases hscope : scope = .payment orderId
      · exact .inr (.inr ⟨orderId, concertId, rfl, hscope⟩)
      · left
        rw [← hkey]
        cases concertId with
        | none =>
            cases hs
            exact clearKey_of_ne hscope
        | some concertId =>
            cases hs
            exact clearKey_of_ne hscope
  | serve op ch =>
      obtain ⟨server, -, rfl⟩ := Option.map_eq_some_iff.mp hs
      exact .of_eq rfl
  | expire name =>
      cases hs
      exact .of_eq rfl
  | other request =>
      simp only [TicketCheckout.next] at hs
      split at hs
      · obtain ⟨server, -, rfl⟩ := Option.map_eq_some_iff.mp hs
        exact .of_eq rfl
      · cases hs

/-- The keys that the pages of a scope hold: those they held before, or the stored one. -/
def Holds (s s' : State) : Prop :=
  ∀ page' ∈ s'.tab.pages, ∀ key round, page'.stage.held = some (key, round) →
    (∃ page ∈ s.tab.pages, page.scope = page'.scope ∧ page.stage.held = some (key, round)) ∨
    s'.tab.sessionKeys page'.scope = some key

/-- Pages that were there before hold what they held. -/
theorem Holds.of_mem (h : ∀ page ∈ s'.tab.pages, page ∈ s.tab.pages) : Holds s s' :=
  fun page hpage _ _ hheld => .inl ⟨page, h page hpage, rfl, hheld⟩

/-- A page goes on with the key it has, or without one. -/
theorem Holds.setStage (hpage : page ∈ s.tab.pages)
    (hstage : stage.held = none ∨ stage.held = page.stage.held) :
    Holds s (s.setStage i page stage) := by
  intro page' hpage' key round hheld
  rcases List.mem_or_eq_of_mem_set hpage' with hold | rfl
  · exact .inl ⟨page', hold, rfl, hheld⟩
  · rcases hstage with hnone | hsame
    · rw [show stage.held = some (key, round) from hheld] at hnone
      cases hnone
    · exact .inl ⟨page, hpage, rfl, hsame.symm.trans hheld⟩

/-- A page that sends held its key before. -/
theorem Holds.send {attempt : Nat} {arrives : Bool} (hpage : page ∈ s.tab.pages)
    (hheld : page.stage.held = some (key, round)) :
    Holds s (s.send platform i page key round body attempt arrives) := by
  unfold State.send
  split
  · exact Holds.setStage hpage (.inr hheld.symm)
  · exact Holds.setStage hpage (.inl rfl)

/-- The key that a page fetches is stored. -/
theorem Kept.stored (h : Kept platform s) (hfresh : s.Fresh platform uuid) (scope : Scope) :
    (s.getKey scope uuid).2.tab.sessionKeys scope = some (s.getKey scope uuid).1 := by
  have hget := h.getKey hfresh scope
  exact (hget.kept.session scope _).mpr hget.issued

/-- A page goes on with the key it has fetched. -/
theorem Holds.fetched (hkept : Kept platform s) (hfresh : s.Fresh platform uuid)
    (hstage : ∀ key round, stage.held = some (key, round) →
      key = (s.getKey page.scope uuid).1) :
    Holds s ((s.getKey page.scope uuid).2.setStage i page stage) := by
  intro page' hpage' key round hheld
  rcases List.mem_or_eq_of_mem_set hpage' with hold | rfl
  · rw [(hkept.getKey hfresh page.scope).pages] at hold
    exact .inl ⟨page', hold, rfl, hheld⟩
  · right
    rw [hstage key round hheld]
    exact hkept.stored hfresh page.scope

/-- A page that is answered holds no new key. -/
theorem answer_holds {attempt : Nat} (conflicts : Bool) (answer : Answer Response)
    (hpage : page ∈ s.tab.pages) (hstage : page.stage = .waiting key round body attempt op) :
    Holds s (s.answer i page key round body attempt conflicts answer) := by
  have hreview : Holds s (s.setStage i page .review) := .setStage hpage (.inl rfl)
  have hconflict : Holds s (s.conflict i page key round body attempt) := by
    unfold State.conflict
    split
    · exact .setStage hpage (.inr (by rw [hstage]; rfl))
    · exact hreview
  have hreceived : ∀ response, Holds s (s.received i page key body response) := by
    intro response
    have hdone : Holds s (s.setStage i page .done) := .setStage hpage (.inl rfl)
    unfold State.received
    split
    · exact hreview
    · intro page' hpage' key' round' hheld
      have hmem : page' ∈ (s.setStage i page .done).tab.pages := by
        unfold State.succeed at hpage'
        split at hpage' <;> exact hpage'
      rcases List.mem_or_eq_of_mem_set hmem with hold | rfl
      · exact .inl ⟨page', hold, rfl, hheld⟩
      · cases hheld
  unfold State.answer
  split
  · exact hreceived _
  · exact hreceived _
  · exact hreview
  · exact hconflict
  · split
    · exact hconflict
    · exact hreview
  · exact hreview

/-- A key that a page holds it held before, or has fetched. -/
theorem holds_of_next (hkept : Kept platform s) (hs : next platform s m = some s') :
    Holds s s' := by
  have hmem : ∀ {i page}, s.tab.pages[i]? = some page → page ∈ s.tab.pages :=
    fun hget => List.mem_of_getElem? hget
  have hnew : ∀ {s₁ : State} {page : Page}, page.stage = .review → s₁.tab.pages = s.tab.pages →
      Holds s { s₁ with tab := { s₁.tab with pages := s₁.tab.pages ++ [page] } } := by
    intro s₁ page hreview hpages page' hpage' key round hheld
    rcases List.mem_append.mp hpage' with hold | heq
    · exact .inl ⟨page', hpages ▸ hold, rfl, hheld⟩
    · rw [List.mem_singleton.mp heq, hreview] at hheld
      cases hheld
  cases m with
  | select concertId selection =>
      cases hs
      exact .of_mem fun _ hpage => hpage
  | openCheckout concertId uuid =>
      simp only [TicketCheckout.next] at hs
      split at hs
      · rename_i hfresh
        have hpages := (hkept.getKey hfresh (.checkout concertId)).pages
        split at hs
        · cases hs
          refine .of_mem fun page hpage => ?_
          rwa [hpages] at hpage
        · cases hs
          exact hnew rfl hpages
      · cases hs
  | openPayment orderId =>
      cases hs
      exact hnew rfl rfl
  | press i uuid admitted arrives =>
      simp only [TicketCheckout.next] at hs
      split at hs
      · rename_i hfresh
        obtain ⟨page, hpage, hs⟩ := Option.bind_eq_some_iff.mp hs
        -- a page that is pressed fetches its key anew
        have hfetched : ∀ {stage : Stage}, (∀ key round, stage.held = some (key, round) →
            key = (s.getKey page.scope uuid).1) →
            Holds s ((s.getKey page.scope uuid).2.setStage i page stage) :=
          fun hstage => .fetched hkept hfresh hstage
        split at hs
        · split at hs
          · split at hs
            · cases hs
              refine hfetched fun key round hheld => ?_
              cases hheld
              rfl
            · cases hs
              exact .of_mem fun _ hpage => hpage
          · cases hs
            unfold State.send
            split
            · refine hfetched fun key round hheld => ?_
              cases hheld
              rfl
            · refine hfetched fun key round hheld => ?_
              cases hheld
        · cases hs
      · cases hs
  | loaded i types arrives =>
      obtain ⟨page, hpage, hs⟩ := Option.bind_eq_some_iff.mp hs
      split at hs
      · rename_i key round concertId selection hstage hscope hselection
        split at hs
        · cases hs
          exact .setStage (hmem hpage) (.inl rfl)
        · cases hs
          exact .send (hmem hpage) (by rw [hstage]; rfl)
      · cases hs
  | answer i conflicts =>
      obtain ⟨page, hpage, hs⟩ := Option.bind_eq_some_iff.mp hs
      split at hs
      · rename_i key round body attempt op hstage
        split at hs
        · cases hs
          exact answer_holds conflicts _ (hmem hpage) hstage
        · cases hs
      · cases hs
  | disconnect i =>
      obtain ⟨page, hpage, hs⟩ := Option.bind_eq_some_iff.mp hs
      split at hs
      · cases hs
        exact .setStage (hmem hpage) (.inl rfl)
      · cases hs
  -- a page that sleeps sends the key it held, or gives up
  | wake i arrives =>
      obtain ⟨page, hpage, hs⟩ := Option.bind_eq_some_iff.mp hs
      split at hs
      · rename_i key round body attempt hstage
        split at hs
        · cases hs
          exact .send (hmem hpage) (by rw [hstage]; rfl)
        · cases hs
          exact .setStage (hmem hpage) (.inl rfl)
      · cases hs
  -- no page survives a reload
  | reload =>
      cases hs
      refine .of_mem fun page hpage => ?_
      cases hpage
  | settle orderId concertId =>
      cases concertId with
      | none =>
          cases hs
          exact .of_mem fun _ hpage => hpage
      | some concertId =>
          cases hs
          exact .of_mem fun _ hpage => hpage
  | serve op ch =>
      obtain ⟨server, -, rfl⟩ := Option.map_eq_some_iff.mp hs
      exact .of_mem fun _ hpage => hpage
  | expire name =>
      cases hs
      exact .of_mem fun _ hpage => hpage
  | other request =>
      simp only [TicketCheckout.next] at hs
      split at hs
      · obtain ⟨server, -, rfl⟩ := Option.map_eq_some_iff.mp hs
        exact .of_mem fun _ hpage => hpage
      · cases hs

end TicketCheckout
