import HookRelay.Proofs.Record.Lifecycle

namespace HookRelay.DeliveryRecord

/-- Two for each attempt that has begun, and one more once the last of them has ended. -/
def rank (record : DeliveryRecord) : Nat :=
  2 * record.attempts + if record.status = .failed ∨ record.status = .successful then 1 else 0

/-- The greatest rank where so many attempts are allowed. -/
def greatestRank (most : Nat) : Nat := 2 * max 1 most + 1

variable {record next first last : DeliveryRecord} {call : RecordCall} {most : Nat}

theorem rank_le (record : DeliveryRecord) : record.rank ≤ 2 * record.attempts + 1 := by
  unfold rank
  split
  · exact Nat.le_refl _
  · exact Nat.le_succ _

theorem rank_of_ended (ended : record.status = .failed ∨ record.status = .successful) :
    record.rank = 2 * record.attempts + 1 := by
  rw [rank, if_pos ended]

theorem rank_of_processing (inFlight : record.status = .processing) :
    record.rank = 2 * record.attempts := by
  rw [rank, inFlight]
  rfl

/-- A transition that is granted takes the record further. -/
theorem Coherent.rank_lt (coherent : record.Coherent) (granted : call.answer record = .ok next) :
    record.rank < next.rank := by
  have counted := (coherent.steps_of_ok granted).counted
  rcases RecordCall.answer_eq_ok granted with
    ⟨begins, _, begun⟩ | ⟨ends, target, inFlight, code, body, now, ended⟩
  · have flying : next.status = .processing := by rw [begun]
    have before := record.rank_le
    rw [begins] at counted
    rw [rank_of_processing flying, counted]
    simp only [Bool.toNat_true]
    omega
  · have landed : next.status = .failed ∨ next.status = .successful := by
      rw [ended]
      exact target.symm
    rw [ends] at counted
    rw [rank_of_ended landed, rank_of_processing inFlight, counted]
    exact Nat.lt_succ_self _

theorem not_granted_of_isTerminal (terminal : record.isTerminal most = true)
    (limited : call.limit ≤ most) : call.answer record ≠ .ok next := by
  intro granted
  rcases RecordCall.answer_eq_ok granted with ⟨_, able, _⟩ | ⟨_, _, inFlight, _⟩
  · unfold isTerminal at terminal
    unfold canAttempt at able
    split at terminal
    · rename_i successful
      rw [successful] at able
      cases able
    · rename_i failed
      rw [failed] at able
      have spent : most ≤ record.attempts := of_decide_eq_true terminal
      have left : record.attempts < call.limit := of_decide_eq_true able
      omega
    · cases terminal
    · cases terminal
  · rw [isTerminal, inFlight] at terminal
    cases terminal

theorem ReachableWithin.rank_le (reachable : record.ReachableWithin most) :
    record.rank ≤ greatestRank most := by
  have bounded := reachable.attempts_le
  exact Nat.le_trans record.rank_le (Nat.succ_le_succ (Nat.mul_le_mul_left 2 bounded))

/-- A record that has come as far as any does is done with. -/
theorem ReachableWithin.isTerminal_of_rank (reachable : record.ReachableWithin most)
    (far : greatestRank most ≤ record.rank) : record.isTerminal most = true := by
  have bounded := reachable.attempts_le
  unfold greatestRank at far
  unfold rank at far
  cases status : record.status with
  | pending =>
    simp only [status, reduceCtorEq, or_self, if_false] at far
    omega
  | processing =>
    simp only [status, reduceCtorEq, or_self, if_false] at far
    omega
  | successful => simp only [isTerminal, status]
  | failed =>
    simp only [status, true_or, if_true] at far
    have spent : most ≤ record.attempts := by omega
    simp only [isTerminal, status, spent, decide_true]

/-- What a record has become by transitions within a limit: it is at least as far, and one that was done
with is as it was. -/
structure Furthers (most : Nat) (first last : DeliveryRecord) : Prop where
  reachable : last.ReachableWithin most
  same : SameDelivery first last
  ahead : first.rank ≤ last.rank
  ended : first.isTerminal most = true → last = first

namespace Furthers

theorem refl (reachable : first.ReachableWithin most) : Furthers most first first :=
  ⟨reachable, .refl first, Nat.le_refl _, fun _ => rfl⟩

theorem trans {middle : DeliveryRecord} (earlier : Furthers most first middle)
    (later : Furthers most middle last) : Furthers most first last where
  reachable := later.reachable
  same := earlier.same.trans later.same
  ahead := Nat.le_trans earlier.ahead later.ahead
  ended terminal := by
    have kept := earlier.ended terminal
    rw [later.ended (kept ▸ terminal), kept]

theorem lasting (furthers : Furthers most first last) (lasting : last.isTerminal most = false) :
    first.isTerminal most = false := by
  cases terminal : first.isTerminal most with
  | false => rfl
  | true =>
    rw [furthers.ended terminal, terminal] at lasting
    cases lasting

theorem of_granted (reachable : record.ReachableWithin most) (limited : call.limit ≤ most)
    (granted : call.answer record = .ok next) : Furthers most record next where
  reachable := reachable.answered limited granted
  same := (reachable.coherent.steps_of_ok granted).same
  ahead := Nat.le_of_lt (reachable.coherent.rank_lt granted)
  ended terminal := absurd granted (not_granted_of_isTerminal terminal limited)

end Furthers

end HookRelay.DeliveryRecord
