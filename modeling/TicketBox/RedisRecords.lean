import TicketBox.RedisKeys
import TicketBox.ScriptProofs

/-! # Live records and their keys

    A reserve writes its record together with both its keys, and nothing deletes
    a key.  So in every state that a run can reach the live records are finitely
    many, hold tickets, and have both their keys (`RecordsSound`). -/

namespace TicketBackend

open Interleave TicketStore TicketRedis TicketDb TicketFlow TicketOrder TicketPayment

/-- The live records are finitely many, hold tickets and have their keys. -/
structure RecordsSound (w : World) : Prop where
  live : LiveRecords w.redis w.now
  tracked : ∀ o e, w.redis.reservation w.now o = some e → Tracked w.redis e.userId e.ticketTypeId

/-- Records may only be lost. -/
theorem RecordsSound.of_sub {w w' : World} (h : RecordsSound w) (hgrow : KeysGrow w.redis w'.redis)
    (hsub : ∀ o e, w'.redis.reservation w'.now o = some e → w.redis.reservation w.now o = some e) :
    RecordsSound w' where
  live := by
    refine ⟨h.live.finite.mono fun o ho => ?_, fun o e he => h.live.positive o e (hsub o e he)⟩
    obtain ⟨e, he⟩ := Option.isSome_iff_exists.mp ho
    rw [hsub o e he]
    rfl
  tracked o e he := hgrow.tracked (h.tracked o e (hsub o e he))

/-! ## One step -/

/-- A record found after a reserve was written by it or found before. -/
theorem reservation_of_reserved {p : ReserveParams} {now : Nat} {r : Redis} {o : OrderId}
    {e : Reservation} (h : (TicketRedis.reserved p now r).reservation now o = some e) :
    (o = p.orderId ∧ e = recordOf p now) ∨ r.reservation now o = some e := by
  by_cases ho : o = p.orderId
  · subst ho
    rw [reservation_reserved_self] at h
    split at h
    · cases h
      exact .inl ⟨rfl, rfl⟩
    · cases h
  · rw [reservation_reserved_ne ho] at h
    exact .inr h

/-- A reserve adds its record, and both keys with it. -/
theorem RecordsSound.reserve {w : World} (h : RecordsSound w) (p : ReserveParams) :
    RecordsSound { w with redis := (TicketRedis.reserveTicket p w.now w.redis).1 } := by
  by_cases hcan : CanReserve p w.now w.redis
  · have hkeys : Tracked (TicketRedis.reserved p w.now w.redis) p.userId p.ticketTypeId := by
      simp [Tracked, TicketRedis.reserved]
    rw [reserveTicket_ok hcan]
    refine ⟨⟨?_, fun o e he => ?_⟩, fun o e he => ?_⟩
    · refine (h.live.finite.update p.orderId (some (recordOf p w.now))).mono fun o ho => ?_
      obtain ⟨e, he⟩ := Option.isSome_iff_exists.mp ho
      rcases reservation_of_reserved he with ⟨rfl, -⟩ | hold
      · simp
      · exact isSome_update (by rw [hold]; rfl)
    · rcases reservation_of_reserved he with ⟨-, rfl⟩ | hold
      · exact p.quantity_pos
      · exact h.live.positive o e hold
    · rcases reservation_of_reserved he with ⟨-, rfl⟩ | hold
      · exact hkeys
      · exact (keysGrow_reserved p w.now w.redis).tracked (h.tracked o e hold)
  · obtain ⟨e, he⟩ := reserveTicket_error hcan
    rw [he]
    exact h

/-- A release only takes a record away. -/
theorem reservation_of_release {p : ReleaseParams} {now : Nat} {r : Redis} {o : OrderId}
    {e : Reservation} (h : (releaseReservation p now r).1.reservation now o = some e) :
    r.reservation now o = some e := by
  by_cases hm : Matches p now r
  · rw [(release_of_matches hm).1] at h
    by_cases ho : o = p.orderId
    · subst ho
      rw [reservation_released_self] at h
      cases h
    · rwa [reservation_released_ne ho] at h
  · rwa [(release_of_not_matches hm).1] at h

/-- Deleting a record adds none. -/
theorem reservation_of_del {o o' : OrderId} {now : Nat} {r : Redis} {e : Reservation}
    (h : (TicketRedis.delReservation o r).reservation now o' = some e) :
    r.reservation now o' = some e := by
  by_cases ho : o' = o
  · subst ho
    simp [Redis.reservation, TicketRedis.delReservation] at h
  · simpa [Redis.reservation, TicketRedis.delReservation, ho] using h

/-- A record found later was found before. -/
theorem reservation_of_later {r : Redis} {now ms : Nat} {o : OrderId} {e : Reservation}
    (h : r.reservation (now + ms) o = some e) : r.reservation now o = some e := by
  cases hnow : r.reservation now o with
  | none =>
      rw [reservation_none_mono (Nat.le_add_right now ms) hnow] at h
      cases h
  | some e' =>
      simp only [Redis.reservation, Option.filter_eq_some_iff] at h hnow
      rw [← hnow.1, h.1]

/-- A seed of the stock leaves the records alone. -/
theorem setNxStock_reservation (t : TicketTypeId) (n : Int) (r : Redis) (now : Nat) (o : OrderId) :
    (setNxStock t n r).reservation now o = r.reservation now o := by
  simp only [setNxStock]
  split <;> rfl

/-- So does a seed of the limit. -/
theorem setNxUserLimit_reservation (u : UserId) (t : TicketTypeId) (n : Int) (r : Redis) (now : Nat)
    (o : OrderId) : (setNxUserLimit u t n r).reservation now o = r.reservation now o := by
  simp only [setNxUserLimit]
  split <;> rfl

/-- Every call keeps the records sound. -/
theorem asked_recordsSound {ch : Choice} {w w' : World} {d : Ask} {prog : Op}
    (h : Asked ch w d w' prog) (hw : RecordsSound w) : RecordsSound w' := by
  have hgrow := asked_keys h
  cases h with
  | reserved ctx o slots s redis res _ _ hres =>
      have := hw.reserve (reserveParams ctx o s.item)
      rwa [hres] at this
  | recordDeleted order => exact hw.of_sub hgrow fun o e => reservation_of_del
  | _ => exact hw.of_sub hgrow fun _ _ => id

/-- So does every task. -/
theorem performed_recordsSound {ch : Choice} {w w' : World} {t : Task} {res : TaskResult Task}
    (h : Performed ch w t w' res) (hw : RecordsSound w) : RecordsSound w' := by
  have hgrow := performed_keys h
  cases h with
  | stockSet t n =>
      exact hw.of_sub hgrow fun o e he => by rwa [setNxStock_reservation] at he
  | limitSet u t n =>
      exact hw.of_sub hgrow fun o e he => by rwa [setNxUserLimit_reservation] at he
  | released site p => exact hw.of_sub hgrow fun o e => reservation_of_release
  | _ => exact hw.of_sub hgrow fun _ _ => id

/-! ## All runs -/

/-- So does every step. -/
theorem RecordsSound.step {G : Condition} {p q : State} (hp : RecordsSound p.world)
    (h : backend.Step G p q) : RecordsSound q.world := by
  refine h.world (I := RecordsSound) hp ?_ ?_ ?_
  · exact fun ch d w' prog _ _ hd => asked_recordsSound (dispatch_asked hd) hp
  · exact fun ch t w' res _ _ hperf => performed_recordsSound (perform_performed hperf) hp
  · exact fun ms _ => hp.of_sub (.refl _) fun o e => reservation_of_later

/-- At the start there are no records. -/
theorem Opening.recordsSound {p : State} (h : Opening p) : RecordsSound p.world := by
  have hnone : ∀ o, p.world.redis.reservation p.world.now o = none := fun o => by
    rw [Redis.reservation, h.reservations_none]
    rfl
  refine ⟨⟨KeyTable.finite_none.mono fun o ho => ?_, fun o e he => ?_⟩, fun o e he => ?_⟩
  · rw [hnone] at ho
    exact ho
  · rw [hnone] at he
    cases he
  · rw [hnone] at he
    cases he

/-- In every state that a run from the opening reaches, the live records are
    finitely many and have their keys. -/
theorem Opening.records_run {G : Condition} {p q : State} (h : Opening p) (hr : backend.Run G p q) :
    RecordsSound q.world :=
  hr.inv (I := fun p => RecordsSound p.world) (fun _ _ => RecordsSound.step) h.recordsSound

end TicketBackend
