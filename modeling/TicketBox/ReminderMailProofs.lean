import TicketBox.ReminderMail
import Mathlib.Data.List.Nodup

/-! # Who gets a reminder

    The pages of an attempt follow each other through the ticket holders, so one
    attempt mails each of them once.  What an attempt has sent is written down
    nowhere: an attempt after it mails everybody again.  `Covers` says what has been
    mailed since the last start of the job, and that nothing before it was sent. -/

namespace ReminderMail

open Machine
open TicketStore (ConcertId UserId TicketStatus)
open TicketConcerts (Concert findConcert)

variable {db : Db} {concertId : ConcertId} {s s' : State}

/-! ## Pages -/

/-- The page behind a holder. -/
theorem page_after {users pre post : List User} (h : users = pre ++ post)
    (hnodup : (users.map User.id).Nodup) :
    page (pre.getLast?.map User.id) users = post.take BATCH_SIZE := by
  subst h
  rcases List.eq_nil_or_concat' pre with rfl | ⟨front, last, rfl⟩
  · rfl
  · have hfront : ∀ user ∈ front, user.id ≠ last.id := by
      intro user huser heq
      rw [List.append_assoc, List.map_append, List.nodup_append] at hnodup
      exact hnodup.2.2 _ (List.mem_map_of_mem huser) _ (by simp) heq
    have hdrop : (front ++ [last] ++ post).dropWhile (fun user => user.id ≠ last.id)
        = last :: post := by
      rw [List.append_assoc, List.dropWhile_append_of_pos (by simpa using hfront)]
      simp
    rw [List.getLast?_concat, Option.map_some, page, hdrop]
    rfl

/-! ## What is to hold -/

/-- The reminders that were sent to a user. -/
def sentTo (u : UserId) (mails : List Mail) : Nat :=
  mails.countP fun mail => mail.sent && mail.userId = u

/-- **Each holder is mailed once**: nobody is sent two reminders, and once the job is
    completed a reminder was tried for everyone with a valid ticket. -/
structure MailedOnce (concertId : ConcertId) (db : Db) (s : State) : Prop where
  atMostOnce : ∀ u, sentTo u s.mails ≤ 1
  everyone : ∀ result, s.phase = .completed result →
    ∀ user ∈ db.holders concertId, ∃ mail ∈ s.mails, mail.userId = user.id

/-- The concert is there and not cancelled. -/
def TakesPlace (concertId : ConcertId) (db : Db) : Prop :=
  ∃ concert, findConcert concertId db.concerts = some concert ∧ concert.status ≠ .cancelled

/-- The condition on a step: the concert takes place or nobody holds a ticket for it, and
    no database call fails once a reminder was sent. -/
def Unsent (concertId : ConcertId) (db : Db) (s : State) (ev : Event) : Prop :=
  (TakesPlace concertId db ∨ db.holders concertId = []) ∧
    match ev with
    | .fails => ∀ mail ∈ s.mails, mail.sent = false
    | .answers _ => True

/-! ## One attempt -/

/-- The users mailed since the last start of the job, nothing having been sent before. -/
def Covers (users : List User) (mails : List Mail) : Prop :=
  ∃ old new, mails = old ++ new ∧ (∀ mail ∈ old, mail.sent = false) ∧
    new.map Mail.userId = users.map User.id

/-- Nobody has been mailed yet. -/
theorem covers_nil {mails : List Mail} (h : ∀ mail ∈ mails, mail.sent = false) :
    Covers [] mails := ⟨mails, [], by simp, h, rfl⟩

/-- A page that is sent is covered as well. -/
theorem Covers.sendPage {users users' : List User} {mails : List Mail} (h : Covers users mails)
    (concert : Concert) (sends : UserId → Bool) :
    Covers (users ++ users') (mails ++ db.sendPage concert sends users') := by
  obtain ⟨old, new, rfl, hold, hnew⟩ := h
  refine ⟨old, new ++ db.sendPage concert sends users', by simp, hold, ?_⟩
  rw [List.map_append, List.map_append, hnew, Db.sendPage, List.map_map]
  rfl

/-- Users that are covered once are sent one reminder at most. -/
theorem Covers.sentTo_le {users : List User} {mails : List Mail} (h : Covers users mails)
    (hnodup : (users.map User.id).Nodup) (u : UserId) : sentTo u mails ≤ 1 := by
  obtain ⟨old, new, rfl, hold, hnew⟩ := h
  have hzero : old.countP (fun mail => mail.sent && mail.userId = u) = 0 := by
    rw [List.countP_eq_zero]
    intro mail hmail
    simp [hold mail hmail]
  have hcount : new.countP (fun mail => mail.sent && mail.userId = u)
      ≤ (new.map Mail.userId).count u := by
    rw [List.count, List.countP_map]
    refine List.countP_mono_left fun mail _ hsent => ?_
    simp only [Bool.and_eq_true, decide_eq_true_eq] at hsent
    simp [hsent.2]
  rw [sentTo, List.countP_append, hzero, zero_add]
  exact hcount.trans (hnew ▸ List.nodup_iff_count_le_one.mp hnodup u)

/-- A job between its steps. -/
def Inv (concertId : ConcertId) (db : Db) (s : State) : Prop :=
  match s.phase with
  | .findConcert | .checkStatus _ => Covers [] s.mails
  | .fetch _ cursor _ _ => ∃ pre post, db.holders concertId = pre ++ post ∧
      cursor = pre.getLast?.map User.id ∧ Covers pre s.mails
  | .completed _ => Covers (db.holders concertId) s.mails

/-- No holder is listed twice. -/
theorem holders_nodup (concertId : ConcertId) (db : Db) :
    ((db.holders concertId).map User.id).Nodup :=
  List.Nodup.sublist (List.Sublist.map User.id List.filter_sublist) db.users_nodup

/-- A page that is fetched and mailed moves the cursor to its end. -/
theorem getLast?_page {pre page : List User} {last : User} (h : page.getLast? = some last) :
    (pre ++ page).getLast?.map User.id = some last.id := by
  rw [List.getLast?_append, h]
  rfl

/-- A failed call leaves nothing sent behind. -/
theorem Inv.fails (h : db.next concertId s .fails = some s')
    (hunsent : ∀ mail ∈ s.mails, mail.sent = false) : Inv concertId db s' := by
  rcases s with ⟨phase, mails⟩
  cases phase with
  | completed result => cases h
  | findConcert =>
      cases h
      exact covers_nil hunsent
  | checkStatus concert =>
      cases h
      exact covers_nil hunsent
  | fetch concert cursor totalSent totalSkipped =>
      cases h
      exact covers_nil hunsent

/-- Every answer moves the attempt on. -/
theorem Inv.answers {sends : UserId → Bool} (hinv : Inv concertId db s)
    (hplace : TakesPlace concertId db ∨ db.holders concertId = [])
    (h : db.next concertId s (.answers sends) = some s') : Inv concertId db s' := by
  rcases s with ⟨phase, mails⟩
  -- an attempt is skipped only where there is nobody to mail
  have hskipped : ¬ TakesPlace concertId db → Covers [] mails →
      Covers (db.holders concertId) mails := by
    intro hno hcovers
    rw [hplace.resolve_left hno]
    exact hcovers
  cases phase with
  | completed result => cases h
  | findConcert =>
      simp only [Db.next, Db.answer] at h
      cases hfind : findConcert concertId db.concerts with
      | none =>
          rw [hfind] at h
          cases h
          refine hskipped ?_ hinv
          rintro ⟨concert, hconcert, -⟩
          rw [hfind] at hconcert
          cases hconcert
      | some concert =>
          rw [hfind] at h
          cases h
          exact hinv
  | checkStatus concert =>
      simp only [Db.next, Db.answer] at h
      cases hfind : findConcert concertId db.concerts with
      | none =>
          rw [hfind] at h
          cases h
          refine hskipped ?_ hinv
          rintro ⟨concert, hconcert, -⟩
          rw [hfind] at hconcert
          cases hconcert
      | some freshConcert =>
          rw [hfind] at h
          dsimp only at h
          split at h
          · rename_i hcancelled
            cases h
            refine hskipped ?_ hinv
            rintro ⟨concert, hconcert, hstatus⟩
            rw [hfind] at hconcert
            cases hconcert
            exact hstatus hcancelled
          · cases h
            exact ⟨[], _, rfl, rfl, hinv⟩
  | fetch concert cursor totalSent totalSkipped =>
      obtain ⟨pre, post, hholders, rfl, hcovers⟩ := hinv
      have hnodup := holders_nodup concertId db
      simp only [Db.next, Db.answer, page_after hholders hnodup] at h
      cases hlast : (post.take BATCH_SIZE).getLast? with
      | none =>
          rw [hlast] at h
          cases h
          rw [List.getLast?_eq_none_iff, List.take_eq_nil_iff] at hlast
          have hpost : post = [] := hlast.resolve_left (by decide)
          show Covers (db.holders concertId) mails
          rw [hholders, hpost, List.append_nil]
          exact hcovers
      | some last =>
          rw [hlast] at h
          cases h
          refine ⟨pre ++ post.take BATCH_SIZE, post.drop BATCH_SIZE, ?_, ?_, ?_⟩
          · rw [List.append_assoc, List.take_append_drop]
            exact hholders
          · exact (getLast?_page hlast).symm
          · exact hcovers.sendPage concert sends

/-- **Reminders are mailed once** in every run in which the concert takes place, or has no
    ticket holders, and no database call fails after a reminder was sent. -/
theorem reminded_once (hr : RunIf (db.next concertId) (Unsent concertId db) start s) :
    MailedOnce concertId db s := by
  have hinv : Inv concertId db s := by
    refine hr.inv (I := Inv concertId db) ?_ (covers_nil (by simp [start]))
    intro s ev s' hinv hunsent hnext
    cases ev with
    | fails => exact Inv.fails hnext hunsent.2
    | answers sends => exact hinv.answers hunsent.1 hnext
  have hnodup := holders_nodup concertId db
  rcases s with ⟨phase, mails⟩
  constructor
  · intro u
    cases phase with
    | findConcert => exact Covers.sentTo_le hinv List.nodup_nil u
    | checkStatus concert => exact Covers.sentTo_le hinv List.nodup_nil u
    | fetch concert cursor totalSent totalSkipped =>
        obtain ⟨pre, post, hholders, -, hcovers⟩ := hinv
        rw [hholders, List.map_append] at hnodup
        exact hcovers.sentTo_le hnodup.of_append_left u
    | completed result => exact Covers.sentTo_le hinv hnodup u
  · rintro result rfl user huser
    obtain ⟨old, new, rfl, -, hnew⟩ := hinv
    obtain ⟨mail, hmail, heq⟩ := List.mem_map.mp (hnew ▸ List.mem_map_of_mem huser)
    exact ⟨mail, List.mem_append_right _ hmail, heq⟩

/-- A concert with two ticket holders. -/
def gala : Concert where
  id := 1
  organizerId := 1
  status := .published
  title := "Đêm nhạc"
  slug := "dem-nhac"
  description := none
  artistBio := none
  venue := "Nhà hát"
  startsAt := 200
  saleStartsAt := none
  saleEndsAt := none
  seatMapUrl := none
  coverImageUrl := none
  reminderJobId := none
  createdAt := 0
  updatedAt := 0

/-- A concert with two holders, of one ticket each. -/
def galaDb : Db where
  concerts := [gala]
  users := [⟨5, "an@mail.vn"⟩, ⟨7, "binh@mail.vn"⟩]
  tickets := [⟨5, 1, .issued⟩, ⟨7, 1, .issued⟩]
  users_nodup := by decide

/-- The gala takes place. -/
theorem gala_takesPlace : TakesPlace 1 galaDb := ⟨gala, rfl, by decide⟩

/-- The query of the first page fails, the retry mails both holders. -/
theorem reminded_once_gala :
    ∃ s, s.phase = .completed (.sent 2 0) ∧ MailedOnce 1 galaDb s := by
  have hstep : ∀ {s s'}, galaDb.next 1 s (.answers fun _ => true) = some s' →
      ∃ ev, Unsent 1 galaDb s ev ∧ galaDb.next 1 s ev = some s' :=
    fun h => ⟨_, ⟨.inl gala_takesPlace, trivial⟩, h⟩
  have hfails : ∃ ev, Unsent 1 galaDb ⟨.fetch gala none 0 0, []⟩ ev ∧
      galaDb.next 1 ⟨.fetch gala none 0 0, []⟩ ev = some start :=
    ⟨.fails, ⟨.inl gala_takesPlace, fun _ hmail => nomatch hmail⟩, rfl⟩
  have hretry : RunIf (galaDb.next 1) (Unsent 1 galaDb) start
      ⟨.completed (.sent 2 0), [⟨5, galaDb.reminderFor gala ⟨5, "an@mail.vn"⟩, true⟩,
        ⟨7, galaDb.reminderFor gala ⟨7, "binh@mail.vn"⟩, true⟩]⟩ :=
    .head (hstep rfl) (.head (hstep rfl) (.head (hstep rfl) (.single (hstep rfl))))
  have hrun : RunIf (galaDb.next 1) (Unsent 1 galaDb) start _ :=
    .head (hstep rfl) (.head (hstep rfl) (.head hfails hretry))
  exact ⟨_, rfl, reminded_once hrun⟩

/-- The call after the only page fails: the holders are mailed twice. -/
theorem reminded_twice :
    ∃ s, Run (galaDb.next 1) (fun _ => True) start s ∧ s.phase = .completed (.sent 2 0) ∧
      ¬ MailedOnce 1 galaDb s := by
  have hagain : ∃ s, Run (galaDb.next 1) (fun _ => True) start s ∧
      (s.phase = .completed (.sent 2 0) ∧ sentTo 5 s.mails = 2) :=
    exists_run [.answers fun _ => true, .answers fun _ => true, .answers fun _ => true, .fails,
      .answers fun _ => true, .answers fun _ => true, .answers fun _ => true,
      .answers fun _ => true] (fun _ _ => trivial) _ (by decide +kernel)
  obtain ⟨s, hrun, hdone, htwice⟩ := hagain
  exact ⟨s, hrun, hdone, fun honce => absurd (honce.atMostOnce 5) (by rw [htwice]; decide)⟩

/-! ## The condition is needed -/

/-- Runs of the job, whatever fails. -/
abbrev Runs (concertId : ConcertId) (db : Db) : State → State → Prop :=
  Run (db.next concertId) fun _ => True

/-- Only ticket holders are mailed. -/
theorem mailed_holder (hr : Runs concertId db start s) :
    ∀ mail ∈ s.mails, ∃ user ∈ db.holders concertId, mail.userId = user.id := by
  refine hr.inv (I := fun s => ∀ mail ∈ s.mails, ∃ user ∈ db.holders concertId,
    mail.userId = user.id) ?_ (by simp [start])
  rintro ⟨phase, mails⟩ ev s' hall - hnext
  have hpage : ∀ cursor, page cursor (db.holders concertId) ⊆ db.holders concertId := by
    intro cursor user huser
    cases cursor with
    | none => exact List.mem_of_mem_take huser
    | some id =>
        exact (List.dropWhile_sublist _).subset (List.mem_of_mem_drop (List.mem_of_mem_take huser))
  cases ev with
  | fails =>
      cases phase with
      | completed result => cases hnext
      | findConcert => cases hnext; exact hall
      | checkStatus concert => cases hnext; exact hall
      | fetch concert cursor totalSent totalSkipped => cases hnext; exact hall
  | answers sends =>
      cases phase with
      | completed result => cases hnext
      | findConcert =>
          simp only [Db.next, Db.answer] at hnext
          split at hnext <;> cases hnext <;> exact hall
      | checkStatus concert =>
          simp only [Db.next, Db.answer] at hnext
          split at hnext
          · cases hnext
            exact hall
          · split at hnext <;> cases hnext <;> exact hall
      | fetch concert cursor totalSent totalSkipped =>
          simp only [Db.next, Db.answer] at hnext
          split at hnext
          · cases hnext
            exact hall
          · cases hnext
            intro mail hmail
            rcases List.mem_append.mp hmail with hmail | hmail
            · exact hall mail hmail
            · obtain ⟨user, huser, rfl⟩ := List.mem_map.mp hmail
              exact ⟨user, hpage cursor huser, rfl⟩

/-- An attempt that nothing disturbs mails everybody it has not mailed yet. -/
theorem exists_rest (concertId : ConcertId) (db : Db) (concert : Concert) (n : Nat) :
    ∀ {pre post : List User},
    db.holders concertId = pre ++ post → post.length ≤ n → ∀ totalSent totalSkipped mails,
      ∃ s' result rest, Runs concertId db
          ⟨.fetch concert (pre.getLast?.map User.id) totalSent totalSkipped, mails⟩ s' ∧
        s'.phase = .completed result ∧ s'.mails = mails ++ rest ∧
        ∀ user ∈ post, ∃ mail ∈ rest, mail.userId = user.id ∧ mail.sent = true := by
  induction n with
  | zero =>
      intro pre post hholders hlength totalSent totalSkipped mails
      have hpost : post = [] := List.length_eq_zero_iff.mp (Nat.le_zero.mp hlength)
      subst hpost
      refine ⟨⟨.completed (.sent totalSent totalSkipped), mails⟩, _, [],
        Relation.ReflTransGen.single ⟨.answers fun _ => true, trivial, ?_⟩, rfl, by simp, by simp⟩
      simp only [Db.next, Db.answer, page_after hholders (holders_nodup concertId db)]
      rfl
  | succ n ih =>
      intro pre post hholders hlength totalSent totalSkipped mails
      have hpage := page_after hholders (holders_nodup concertId db)
      cases hlast : (post.take BATCH_SIZE).getLast? with
      | none =>
          rw [List.getLast?_eq_none_iff, List.take_eq_nil_iff] at hlast
          have hpost : post = [] := hlast.resolve_left (by decide)
          exact ih hholders (by simp [hpost]) totalSent totalSkipped mails
      | some last =>
          have hne : post ≠ [] := by
            rintro rfl
            simp at hlast
          have hrest : db.holders concertId
              = (pre ++ post.take BATCH_SIZE) ++ post.drop BATCH_SIZE := by
            rw [List.append_assoc, List.take_append_drop]
            exact hholders
          have hshorter : (post.drop BATCH_SIZE).length ≤ n := by
            have hpos := List.length_pos_iff.mpr hne
            rw [List.length_drop, BATCH_SIZE]
            omega
          let results := db.sendPage concert (fun _ => true) (post.take BATCH_SIZE)
          let sent := (results.filter Mail.sent).length
          obtain ⟨s', result, rest, hrun, hdone, hmails, hall⟩ :=
            ih hrest hshorter (totalSent + sent) (totalSkipped + (results.length - sent))
              (mails ++ results)
          refine ⟨s', result, results ++ rest, Relation.ReflTransGen.head
            ⟨.answers fun _ => true, trivial, ?_⟩ hrun, hdone, by rw [hmails, List.append_assoc], ?_⟩
          · simp only [Db.next, Db.answer, hpage, hlast, getLast?_page hlast]
            rfl
          · intro user huser
            rw [← List.take_append_drop BATCH_SIZE post] at huser
            rcases List.mem_append.mp huser with huser | huser
            · exact ⟨_, List.mem_append_left _ (List.mem_map_of_mem huser), rfl, rfl⟩
            · obtain ⟨mail, hmail, hmailed⟩ := hall user huser
              exact ⟨mail, List.mem_append_right _ hmail, hmailed⟩

/-- Who has got a mail has got one. -/
theorem sentTo_pos {mails : List Mail} {mail : Mail} (hmail : mail ∈ mails)
    (hsent : mail.sent = true) : 0 < sentTo mail.userId mails :=
  List.countP_pos_iff.mpr ⟨mail, hmail, by simp [hsent]⟩

/-- **After a reminder was sent no database call may fail**: an attempt that nothing
    disturbs then sends it again. -/
theorem mailed_again (hr : Runs concertId db start s) (hplace : TakesPlace concertId db)
    (hopen : ∀ result, s.phase ≠ .completed result) {mail : Mail} (hmail : mail ∈ s.mails)
    (hsent : mail.sent = true) :
    ∃ s₁ s' result, db.next concertId s .fails = some s₁ ∧ Runs concertId db s₁ s' ∧
      s'.phase = .completed result ∧ 1 < sentTo mail.userId s'.mails := by
  obtain ⟨user, huser, hid⟩ := mailed_holder hr mail hmail
  obtain ⟨concert, hfind, hstatus⟩ := hplace
  obtain ⟨s', result, rest, hrun, hdone, hmails, hall⟩ :=
    exists_rest concertId db concert (db.holders concertId).length (List.nil_append _).symm le_rfl
      0 0 s.mails
  have hfails : db.next concertId s .fails = some ⟨.findConcert, s.mails⟩ := by
    rcases s with ⟨phase, mails⟩
    cases phase with
    | completed result => exact absurd rfl (hopen result)
    | findConcert => rfl
    | checkStatus _ => rfl
    | fetch _ _ _ _ => rfl
  have hcheck : db.next concertId ⟨.findConcert, s.mails⟩ (.answers fun _ => true)
      = some ⟨.checkStatus concert, s.mails⟩ := by
    simp only [Db.next, Db.answer, hfind]
  have hfetch : db.next concertId ⟨.checkStatus concert, s.mails⟩ (.answers fun _ => true)
      = some ⟨.fetch concert none 0 0, s.mails⟩ := by
    simp only [Db.next, Db.answer, hfind, if_neg hstatus]
  refine ⟨_, s', result, hfails, .head ⟨_, trivial, hcheck⟩ (.head ⟨_, trivial, hfetch⟩ hrun),
    hdone, ?_⟩
  obtain ⟨again, hagain, hsame, hsent'⟩ := hall user huser
  have hfirst := sentTo_pos hmail hsent
  have hsecond := sentTo_pos hagain hsent'
  rw [hsame, ← hid] at hsecond
  rw [hmails, sentTo, List.countP_append]
  rw [sentTo] at hfirst hsecond
  omega

end ReminderMail
