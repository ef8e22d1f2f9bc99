import TicketBox.Checkout
import TicketBox.Machine
import TicketBox.RowTable

/-! # The keys of a tab

    A tab generates a key when its scope has none, and drops it with the order, or when the
    payment is settled.  Over every run, with pages left behind and reloads, two requests
    carry one key if and only if they belong to one scope and it has not dropped its key
    between the two fetches (`same_key_iff`). -/

namespace TicketCheckout

open Interleave Machine
open TicketIdempotency (RequestHash Route Answer Outcome Choice)

variable {platform : Platform} {s s' : State} {scope : Scope} {key uuid : Key} {round : Nat}
  {page : Page} {stage : Stage} {i : Nat}

/-! ## What a page holds -/

/-- The key that a stage holds, with its round. -/
def Stage.held : Stage → Option (Key × Nat)
  | .review => none
  | .loading key round => some (key, round)
  | .waiting key round _ _ _ => some (key, round)
  | .sleeping key round _ _ => some (key, round)
  | .done => none

/-- The keys are those of the scopes: what is remembered is stored, what is stored has been
    issued in the current round, and no key is issued twice. -/
structure Kept (platform : Platform) (s : State) : Prop where
  memory : ∀ scope key, s.tab.keyMemory scope = some key → s.tab.sessionKeys scope = some key
  session : ∀ scope key, s.tab.sessionKeys scope = some key ↔
    (⟨key, scope, s.rounds scope⟩ : Issued) ∈ s.issued
  names : ∀ a ∈ s.issued, ∀ b ∈ s.issued,
    platform.redisKey a.key = platform.redisKey b.key → a = b
  rounds : ∀ a ∈ s.issued, ∀ b ∈ s.issued, a.scope = b.scope → a.round = b.round → a = b
  past : ∀ a ∈ s.issued, a.round ≤ s.rounds a.scope
  pages : ∀ page ∈ s.tab.pages, ∀ key round, page.stage.held = some (key, round) →
    (⟨key, page.scope, round⟩ : Issued) ∈ s.issued
  sent : ∀ sent ∈ s.sent, (⟨sent.key, sent.scope, sent.round⟩ : Issued) ∈ s.issued
  foreign : ∀ a ∈ s.issued, platform.redisKey a.key ∉ s.others

/-- The opened tab has no key. -/
theorem opened_kept : Kept platform opened where
  memory _ _ h := by cases h
  session scope key := by
    constructor
    · intro h
      cases h
    · intro h
      cases h
  names _ h := by cases h
  rounds _ h := by cases h
  past _ h := by cases h
  pages _ h := by cases h
  sent _ h := by cases h
  foreign _ h := by cases h

/-! ## What the moves do to the keys -/

/-- The bookkeeping of the server changes. -/
theorem Kept.server (h : Kept platform s) (server : TicketIdempotency.State Response) :
    Kept platform { s with server } := { h with }

/-- The pages and what is stored beside the keys change. -/
theorem Kept.setPages (h : Kept platform s) {pages : List Page}
    (hpages : ∀ page ∈ pages, ∀ key round, page.stage.held = some (key, round) →
      (⟨key, page.scope, round⟩ : Issued) ∈ s.issued)
    (selections : ConcertId → Option ZoneSelection)
    (pendingOrders : ConcertId → Option OrderId) (finished : List Finished) :
    Kept platform { s with
      tab := { s.tab with pages, selections, pendingOrders }, finished } := { h with pages := hpages }

/-- Page `i` goes to a stage whose key it has been issued. -/
theorem Kept.setStage (h : Kept platform s)
    (hstage : ∀ key round, stage.held = some (key, round) →
      (⟨key, page.scope, round⟩ : Issued) ∈ s.issued) :
    Kept platform (s.setStage i page stage) := by
  refine h.setPages (fun page' hpage' key round hkey => ?_) _ _ s.finished
  rcases List.mem_or_eq_of_mem_set hpage' with hold | rfl
  · exact h.pages page' hold key round hkey
  · exact hstage key round hkey

/-- A key is taken over from the session storage. -/
theorem Kept.remember (h : Kept platform s) (hsession : s.tab.sessionKeys scope = some key) :
    Kept platform { s with
      tab := { s.tab with keyMemory := Function.update s.tab.keyMemory scope (some key) } } where
  memory scope' key' hkey := by
    change Function.update s.tab.keyMemory scope (some key) scope' = some key' at hkey
    by_cases hsame : scope' = scope
    · subst hsame
      rw [Function.update_self] at hkey
      rw [← hkey]
      exact hsession
    · rw [Function.update_of_ne hsame] at hkey
      exact h.memory scope' key' hkey
  session := h.session
  names := h.names
  rounds := h.rounds
  past := h.past
  pages := h.pages
  sent := h.sent
  foreign := h.foreign

/-- A new key is issued to a scope that has none. -/
theorem Kept.issue (h : Kept platform s) (hfresh : s.Fresh platform uuid)
    (hsession : s.tab.sessionKeys scope = none) :
    Kept platform { s with
      tab := { s.tab with
        keyMemory := Function.update s.tab.keyMemory scope (some uuid)
        sessionKeys := Function.update s.tab.sessionKeys scope (some uuid) }
      issued := ⟨uuid, scope, s.rounds scope⟩ :: s.issued } := by
  have hnone : ∀ key, (⟨key, scope, s.rounds scope⟩ : Issued) ∉ s.issued := by
    intro key hmem
    rw [(h.session scope key).mpr hmem] at hsession
    cases hsession
  refine ⟨?_, ?_, ?_, ?_, ?_, ?_, ?_, ?_⟩
  -- the memory and the storage agree, scope by scope
  · intro scope' key hkey
    change Function.update s.tab.keyMemory scope (some uuid) scope' = some key at hkey
    show Function.update s.tab.sessionKeys scope (some uuid) scope' = some key
    by_cases hsame : scope' = scope
    · subst hsame
      rwa [Function.update_self] at hkey ⊢
    · rw [Function.update_of_ne hsame] at hkey ⊢
      exact h.memory scope' key hkey
  · intro scope' key
    show Function.update s.tab.sessionKeys scope (some uuid) scope' = some key ↔
      (⟨key, scope', s.rounds scope'⟩ : Issued) ∈ ⟨uuid, scope, s.rounds scope⟩ :: s.issued
    by_cases hsame : scope' = scope
    · subst hsame
      rw [Function.update_self, Option.some.injEq, List.mem_cons]
      constructor
      · rintro rfl
        exact .inl rfl
      · rintro (heq | hold)
        · exact (Issued.mk.inj heq).1.symm
        · exact absurd hold (hnone key)
    · rw [Function.update_of_ne hsame, h.session scope' key, List.mem_cons]
      constructor
      · exact .inr
      · rintro (heq | hold)
        · exact absurd (Issued.mk.inj heq).2.1 hsame
        · exact hold
  -- no two keys have one name: the uuid is new
  · intro a ha b hb hname
    rcases List.mem_cons.mp ha with rfl | ha
    · rcases List.mem_cons.mp hb with rfl | hb
      · rfl
      · exact absurd hname.symm (hfresh.1 b hb)
    · rcases List.mem_cons.mp hb with rfl | hb
      · exact absurd hname (hfresh.1 a ha)
      · exact h.names a ha b hb hname
  -- in one round a scope has one key, and this round had none yet
  · have hfirst : ∀ b ∈ s.issued, b.scope = scope → b.round ≠ s.rounds scope := by
      rintro ⟨key, scope', round⟩ hb hscope hround
      obtain rfl : scope' = scope := hscope
      have hnow : round = s.rounds scope' := hround
      rw [hnow] at hb
      exact hnone key hb
    intro a ha b hb hscope hround
    rcases List.mem_cons.mp ha with rfl | hold
    · rcases List.mem_cons.mp hb with rfl | hold
      · rfl
      · exact absurd hround.symm (hfirst b hold hscope.symm)
    · rcases List.mem_cons.mp hb with rfl | hold'
      · exact absurd hround (hfirst a hold hscope)
      · exact h.rounds a hold b hold' hscope hround
  · intro a ha
    rcases List.mem_cons.mp ha with rfl | ha
    · exact le_refl _
    · exact h.past a ha
  · intro page hpage key round hkey
    exact List.mem_cons_of_mem _ (h.pages page hpage key round hkey)
  · intro sent hsent
    exact List.mem_cons_of_mem _ (h.sent sent hsent)
  · intro a ha
    rcases List.mem_cons.mp ha with rfl | ha
    · exact hfresh.2
    · exact h.foreign a ha

/-- The fetch of a key: the one of this round, issued now or before. -/
inductive Fetched (s : State) (scope : Scope) (uuid : Key) : Key × State → Prop where
  | cached (key : Key) : s.tab.keyMemory scope = some key → Fetched s scope uuid (key, s)
  | stored (key : Key) : s.tab.sessionKeys scope = some key →
      Fetched s scope uuid (key, { s with
        tab := { s.tab with keyMemory := Function.update s.tab.keyMemory scope (some key) } })
  | issued : s.tab.sessionKeys scope = none →
      Fetched s scope uuid (uuid, { s with
        tab := { s.tab with
          keyMemory := Function.update s.tab.keyMemory scope (some uuid)
          sessionKeys := Function.update s.tab.sessionKeys scope (some uuid) }
        issued := ⟨uuid, scope, s.rounds scope⟩ :: s.issued })

/-- What fetching a key does. -/
theorem getKey_fetched (s : State) (scope : Scope) (uuid : Key) :
    Fetched s scope uuid (s.getKey scope uuid) := by
  unfold State.getKey Tab.getOrCreateScopedKey
  cases hmemory : s.tab.keyMemory scope with
  | some cached =>
      simp only [reduceCtorEq, false_and, if_false]
      exact .cached cached hmemory
  | none =>
      cases hsession : s.tab.sessionKeys scope with
      | some existing =>
          simp only [reduceCtorEq, and_false, if_false]
          exact .stored existing hsession
      | none =>
          simp only [and_self, if_true]
          exact .issued hsession

/-- The key that is fetched has been issued to the scope in this round. -/
structure Holding (platform : Platform) (s : State) (scope : Scope) (key : Key) (s' : State) :
    Prop where
  kept : Kept platform s'
  issued : (⟨key, scope, s'.rounds scope⟩ : Issued) ∈ s'.issued
  pages : s'.tab.pages = s.tab.pages

/-- Fetching a key keeps the keys apart. -/
theorem Kept.getKey (h : Kept platform s) (hfresh : s.Fresh platform uuid) (scope : Scope) :
    Holding platform s scope (s.getKey scope uuid).1 (s.getKey scope uuid).2 := by
  obtain ⟨key, s', hget⟩ : ∃ key s', s.getKey scope uuid = (key, s') := ⟨_, _, rfl⟩
  have hfetched := getKey_fetched s scope uuid
  rw [hget] at hfetched ⊢
  cases hfetched with
  | cached _ hmemory =>
      exact ⟨h, (h.session scope key).mp (h.memory scope key hmemory), rfl⟩
  | stored _ hsession =>
      exact ⟨h.remember hsession, (h.session scope key).mp hsession, rfl⟩
  | issued hsession => exact ⟨h.issue hfresh hsession, List.mem_cons_self, rfl⟩

/-- A scope drops its key: the next one belongs to the next round. -/
theorem Kept.clearKey (h : Kept platform s) (scope : Scope) :
    Kept platform (s.clearKey scope) where
  memory scope' key hkey := by
    by_cases hsame : scope' = scope
    · subst hsame
      simp only [State.clearKey, Tab.clearScopedKey, Function.update_self, reduceCtorEq] at hkey
    · simp only [State.clearKey, Tab.clearScopedKey, Function.update_of_ne hsame] at hkey ⊢
      exact h.memory scope' key hkey
  session scope' key := by
    by_cases hsame : scope' = scope
    · subst hsame
      simp only [State.clearKey, Tab.clearScopedKey, Function.update_self, reduceCtorEq, false_iff]
      intro hmem
      have hpast := h.past _ hmem
      exact absurd hpast (Nat.not_succ_le_self _)
    · simp only [State.clearKey, Tab.clearScopedKey, Function.update_of_ne hsame]
      exact h.session scope' key
  names := h.names
  rounds := h.rounds
  past a ha := by
    have hpast := h.past a ha
    by_cases hsame : a.scope = scope
    · simp only [State.clearKey, hsame, Function.update_self]
      rw [hsame] at hpast
      exact Nat.le_succ_of_le hpast
    · simp only [State.clearKey, Function.update_of_ne hsame]
      exact hpast
  pages := h.pages
  sent := h.sent
  foreign := h.foreign

/-- So does sending a request. -/
theorem Kept.send (h : Kept platform s) {body : RequestBody} {attempt : Nat} {arrives : Bool}
    (hissued : (⟨key, page.scope, round⟩ : Issued) ∈ s.issued) :
    Kept platform (s.send platform i page key round body attempt arrives) := by
  have hstage : ∀ op, Kept platform
      (s.setStage i page (.waiting key round body attempt op)) := by
    refine fun op => h.setStage fun key' round' hkey => ?_
    cases hkey
    exact hissued
  unfold State.send
  split
  · refine { hstage s.server.ops.length with sent := fun sent hsent => ?_ }
    rcases List.mem_cons.mp hsent with rfl | hold
    · exact hissued
    · exact h.sent sent hold
  · refine h.setStage fun key' round' hkey => ?_
    cases hkey

/-- So does a response. -/
theorem Kept.succeed (h : Kept platform s) {body : RequestBody} (response : Response) :
    Kept platform (s.succeed i page key body response) := by
  have hdone : Kept platform { s.setStage i page .done with
      finished := ⟨page.scope, key, body, response⟩ :: s.finished } := by
    have hstage : Kept platform (s.setStage i page .done) := by
      refine h.setStage fun key' round' hkey => ?_
      cases hkey
    exact { hstage with }
  unfold State.succeed
  cases hscope : page.scope with
  | checkout concertId =>
      rw [hscope] at hdone
      have hclear := hdone.clearKey (.checkout concertId)
      exact { hclear with }
  | payment orderId =>
      rw [hscope] at hdone
      exact hdone

/-- So does going back to the review. -/
theorem Kept.review (h : Kept platform s) : Kept platform (s.setStage i page .review) := by
  refine h.setStage fun key round hkey => ?_
  cases hkey

/-- So does any answer. -/
theorem Kept.answer (h : Kept platform s) {body : RequestBody} {attempt : Nat}
    (hissued : (⟨key, page.scope, round⟩ : Issued) ∈ s.issued) (conflicts : Bool)
    (answer : Answer Response) :
    Kept platform (s.answer i page key round body attempt conflicts answer) := by
  have hconflict : Kept platform (s.conflict i page key round body attempt) := by
    unfold State.conflict
    split
    · refine h.setStage fun key' round' hkey => ?_
      cases hkey
      exact hissued
    · exact h.review
  have hreceived : ∀ response, Kept platform (s.received i page key body response) := by
    intro response
    unfold State.received
    split
    · exact h.review
    · exact h.succeed response
  unfold State.answer
  split
  · exact hreceived _
  · exact hreceived _
  · exact h.review
  · exact hconflict
  · split
    · exact hconflict
    · exact h.review
  · exact h.review

/-! ## Runs -/

/-- So does every step. -/
theorem Kept.next {m : Move} (h : Kept platform s) (hs : next platform s m = some s') :
    Kept platform s' := by
  have hmem : ∀ {i page}, s.tab.pages[i]? = some page → page ∈ s.tab.pages :=
    fun hget => List.mem_of_getElem? hget
  cases m with
  | select concertId selection =>
      cases hs
      exact h.setPages h.pages _ s.tab.pendingOrders s.finished
  | openCheckout concertId uuid =>
      simp only [TicketCheckout.next] at hs
      split at hs
      · rename_i hfresh
        have hget := h.getKey hfresh (.checkout concertId)
        split at hs
        · cases hs
          exact hget.kept
        · cases hs
          refine hget.kept.setPages (fun page hpage key round hkey => ?_) _ _ _
          rcases List.mem_append.mp hpage with hold | hnew
          · exact hget.kept.pages page hold key round hkey
          · rw [List.mem_singleton.mp hnew] at hkey
            cases hkey
      · cases hs
  | openPayment orderId =>
      cases hs
      refine h.setPages (fun page hpage key round hkey => ?_) _ _ s.finished
      rcases List.mem_append.mp hpage with hold | hnew
      · exact h.pages page hold key round hkey
      · rw [List.mem_singleton.mp hnew] at hkey
        cases hkey
  -- pressing fetches the key of the page's scope before anything is sent
  | press i uuid admitted arrives =>
      simp only [TicketCheckout.next] at hs
      split at hs
      · rename_i hfresh
        obtain ⟨page, hpage, hs⟩ := Option.bind_eq_some_iff.mp hs
        have hget := h.getKey hfresh page.scope
        split at hs
        · split at hs
          · split at hs
            · cases hs
              refine hget.kept.setStage fun key round hkey => ?_
              cases hkey
              exact hget.issued
            · cases hs
              exact h
          · cases hs
            exact hget.kept.send hget.issued
        · cases hs
      · cases hs
  | loaded i types arrives =>
      obtain ⟨page, hpage, hs⟩ := Option.bind_eq_some_iff.mp hs
      split at hs
      · rename_i key round concertId selection hstage hscope hselection
        have hissued := h.pages page (hmem hpage) key round (by rw [hstage]; rfl)
        split at hs
        · cases hs
          exact h.review
        · cases hs
          exact h.send hissued
      · cases hs
  | answer i conflicts =>
      obtain ⟨page, hpage, hs⟩ := Option.bind_eq_some_iff.mp hs
      split at hs
      · rename_i key round body attempt op hstage
        have hissued := h.pages page (hmem hpage) key round (by rw [hstage]; rfl)
        split at hs
        · cases hs
          exact h.answer hissued conflicts _
        · cases hs
      · cases hs
  | disconnect i =>
      obtain ⟨page, hpage, hs⟩ := Option.bind_eq_some_iff.mp hs
      split at hs
      · cases hs
        exact h.review
      · cases hs
  | wake i arrives =>
      obtain ⟨page, hpage, hs⟩ := Option.bind_eq_some_iff.mp hs
      split at hs
      · rename_i key round body attempt hstage
        have hissued := h.pages page (hmem hpage) key round (by rw [hstage]; rfl)
        split at hs
        · cases hs
          exact h.send hissued
        · cases hs
          exact h.review
      · cases hs
  -- the storage survives a reload, the memory and the pages do not
  | reload =>
      cases hs
      refine ⟨?_, h.session, h.names, h.rounds, h.past, ?_, h.sent, h.foreign⟩
      · intro scope key hkey
        cases hkey
      · intro page hpage
        cases hpage
  -- a settled payment drops the keys of its order and of its concert
  | settle orderId concertId =>
      have hclear := h.clearKey (.payment orderId)
      cases concertId with
      | none =>
          cases hs
          exact hclear
      | some concertId =>
          cases hs
          exact hclear.setPages hclear.pages _ _ s.finished
  | serve op ch =>
      obtain ⟨server, -, rfl⟩ := Option.map_eq_some_iff.mp hs
      exact h.server server
  | expire name =>
      cases hs
      exact h.server _
  | other request =>
      simp only [TicketCheckout.next] at hs
      split at hs
      · rename_i hforeign
        obtain ⟨server, -, rfl⟩ := Option.map_eq_some_iff.mp hs
        refine { h.server server with foreign := fun a ha hmem => ?_ }
        rcases List.mem_cons.mp hmem with heq | hold
        · exact hforeign a ha heq
        · exact h.foreign a ha hold
      · cases hs

/-- So does a whole run. -/
theorem kept_run (hrun : Run (next platform) (fun _ => True) opened s) : Kept platform s :=
  hrun.inv (fun _ _ _ h _ hs => h.next hs) opened_kept

/-- **One key for one checkout.**  After any run, two requests that the tab has sent carry
    one key if and only if they belong to one scope, the checkout of a concert or the
    payment of an order, and this has not dropped its key between their fetches: neither a
    reload nor another page nor a failed attempt changes the key. -/
theorem same_key_iff (hrun : Run (next platform) (fun _ => True) opened s) (a : Sent)
    (ha : a ∈ s.sent) (b : Sent) (hb : b ∈ s.sent) :
    a.key = b.key ↔ a.scope = b.scope ∧ a.round = b.round := by
  have hkept := kept_run hrun
  have hissued := hkept.sent a ha
  have hissued' := hkept.sent b hb
  constructor
  · intro hkey
    have hsame := hkept.names _ hissued _ hissued' (congrArg platform.redisKey hkey)
    exact ⟨(Issued.mk.inj hsame).2.1, (Issued.mk.inj hsame).2.2⟩
  · rintro ⟨hscope, hround⟩
    exact (Issued.mk.inj (hkept.rounds _ hissued _ hissued' hscope hround)).1

/-! ### An example -/

theorem digest_ne : "h1" ≠ "" := by decide
theorem digest_ne' : "h2" ≠ "" := by decide
theorem uuid_ne : "k1" ≠ "" := by decide
theorem uuid_ne' : "k2" ≠ "" := by decide

/-- A customer; the body of one ticket has the hash `h1`, the others have `h2`. -/
def customer : Platform where
  userId := "u1"
  toLowerCase := id
  resolveBackendConcertId := id
  requestHash := fun body =>
    match body with
    | .order _ [⟨_, 1⟩] => ⟨"h1", digest_ne⟩
    | _ => ⟨"h2", digest_ne'⟩

/-- The first key that is drawn. -/
def k1 : Key := ⟨"k1", uuid_ne⟩

/-- The second key that is drawn. -/
def k2 : Key := ⟨"k2", uuid_ne'⟩

/-- The button of page `i` is pressed and the request is sent. -/
def pressed (i : Nat) : List Move :=
  [.press i k2 true true, .loaded i (some [⟨"t1", "VIP"⟩]) true]

/-- A ticket is ordered; the answer is lost. -/
def answerLost : List Move :=
  [.select "c1" ⟨"t1", "VIP", 1⟩, .openCheckout "c1" k1] ++ pressed 0 ++
    [.serve 0 {}, .serve 0 {}, .serve 0 { response := some ⟨"o1", some "url"⟩ }, .serve 0 {},
      .disconnect 0]

/-- Two tickets are ordered instead. -/
def otherSelection : List Move :=
  [.reload, .select "c1" ⟨"t1", "VIP", 2⟩, .openCheckout "c1" k2] ++ pressed 0 ++
    [.serve 1 {}, .answer 0 false]

/-- Two bodies go out under one key, fetched in one round. -/
theorem same_key_iff_otherSelection :
    ∃ s, Run (next customer) (fun _ => True) opened s ∧
      ∃ a ∈ s.sent, ∃ b ∈ s.sent, (a.body ≠ b.body ∧ a.key = b.key) ∧
        (a.key = b.key ↔ a.scope = b.scope ∧ a.round = b.round) := by
  have hsent : ∃ s, Run (next customer) (fun _ => True) opened s ∧
      ∃ a ∈ s.sent, ∃ b ∈ s.sent, a.body ≠ b.body ∧ a.key = b.key :=
    exists_run (answerLost ++ otherSelection) (fun _ _ => trivial) _ (by decide +kernel)
  obtain ⟨s, hrun, a, ha, b, hb, hsame⟩ := hsent
  exact ⟨s, hrun, a, ha, b, hb, hsame, same_key_iff hrun a ha b hb⟩

end TicketCheckout
