import ModelHub.Agent.Session
import Mathlib.Order.Bounds.Basic

/-!
# Reconnecting

`Session.Run` of `agent/internal/transport/session.go`: connect, wait for a random time of
at most `backoff`, double `backoff` up to `MaxBackoff`, and connect again.

The loop never looks at how a connection ended, apart from what it logs.  So the bound of a
wait depends on the number of attempts before it alone (`runLoop_backoff`): it is
`exponential s i` after attempt `i`, counted from zero.  That is the number of failures in a
row only while there has been nothing but failures; `Run_backoff` says what holds in every run.
-/

namespace ModelHub.Agent

/-! ## The loop -/

/-- How `connectOnce` ends. -/
inductive Ending where
  /-- `inventory.Host` fails. -/
  | host (error : GoError)
  /-- The hello cannot be sent. -/
  | hello (error : GoError)
  /-- There is no first message from the server. -/
  | first (error : GoError)
  /-- A probe cannot discover. -/
  | collect (error : GoError)
  /-- The inventory cannot be sent. -/
  | inventory (error : GoError)
  /-- The stream is at its end, or the agent is stopped; what closing it returns. -/
  | closed (result : Option GoError)
  /-- Samples are sent while the stream is at its end. -/
  | canceled
  /-- Samples cannot be sent for another reason. -/
  | samples (error : GoError)
  deriving DecidableEq, Repr

/-- What `connectOnce` returns. -/
def Ending.result : Ending → Option GoError
  | .host error => some error
  | .hello error => some error
  | .first error => some error
  | .collect error => some error
  | .inventory error => some error
  | .closed result => result
  | .canceled => none
  | .samples error => some error

/-- The first message of the server was received. -/
def Ending.established : Ending → Bool
  | .host _ => false
  | .hello _ => false
  | .first _ => false
  | _ => true

/-- What one pass of the loop meets: the connection's ending, whether the context is then
cancelled, the random source, and whether the context is cancelled during the wait. -/
structure Attempt where
  ending : Ending
  ctxDone : Bool
  draw : ℕ
  interrupted : Bool

/-- `rand.Int63n(n)`, which panics unless `n` is positive. -/
def int63n (draw : ℕ) (n : Int64) : Option Int64 :=
  if n ≤ 0 then none else some (Int64.ofInt (draw % n.toInt))

/-- A wait: what is logged, and for how long the loop then waits. -/
structure Wait where
  error : Option GoError
  retryIn : Duration
  duration : Duration
  deriving DecidableEq, Repr

inductive Pass where
  | returned
  | panicked
  | waited (wait : Wait) (backoff : Duration)

def pass (maxBackoff backoff : Duration) (attempt : Attempt) : Pass :=
  if attempt.ctxDone then .returned
  else
    -- Full jitter, so a fleet doesn't reconnect in lockstep when the control plane comes back.
    match int63n attempt.draw (backoff + 1) with
    | none => .panicked
    | some duration =>
        if attempt.interrupted then .returned
        else .waited ⟨attempt.ending.result, backoff, duration⟩ (min (backoff * 2) maxBackoff)

/-- The waits of the loop. -/
def runLoop (maxBackoff : Duration) : Duration → List Attempt → List Wait
  | _, [] => []
  | backoff, attempt :: attempts =>
      match pass maxBackoff backoff attempt with
      | .waited wait backoff => wait :: runLoop maxBackoff backoff attempts
      | .returned => []
      | .panicked => []

/-- The part of a session that `Run` reads. -/
structure Session where
  minBackoff : Duration
  maxBackoff : Duration

def Session.Run (s : Session) (attempts : List Attempt) : List Wait :=
  let backoff := if s.minBackoff ≤ 0 then Second else s.minBackoff
  let maxBackoff := if s.maxBackoff ≤ 0 then 30 * Second else s.maxBackoff
  runLoop maxBackoff backoff attempts

/-! ## The random wait -/

/-- The waits that the random source may choose, in nanoseconds. -/
def waits (backoff : Duration) : Set ℤ :=
  {wait | ∃ draw duration, int63n draw (backoff + 1) = some duration ∧ duration.toInt = wait}

theorem toInt_add_one {backoff : Duration} (h0 : 0 ≤ backoff.toInt) (hlt : backoff.toInt < 2 ^ 62) :
    (backoff + 1).toInt = backoff.toInt + 1 := by
  rw [Int64.toInt_add, show (1 : Int64).toInt = 1 from rfl]
  apply Int.bmod_eq_of_le <;> omega

theorem int63n_mem {draw : ℕ} {backoff duration : Duration} (h0 : 0 ≤ backoff.toInt)
    (hlt : backoff.toInt < 2 ^ 62) (hdraw : int63n draw (backoff + 1) = some duration) :
    0 ≤ duration.toInt ∧ duration.toInt ≤ backoff.toInt := by
  have hone := toInt_add_one h0 hlt
  unfold int63n at hdraw
  split at hdraw
  case isTrue => cases hdraw
  case isFalse =>
    rw [← Option.some.inj hdraw, hone]
    have hlow := Int.emod_nonneg (draw : ℤ) (show backoff.toInt + 1 ≠ 0 by omega)
    have hhigh := Int.emod_lt_of_pos (draw : ℤ) (show 0 < backoff.toInt + 1 by omega)
    rw [Int64.toInt_ofInt_of_le (by omega) (by omega)]
    omega

/-- The bound of the waits is `backoff` itself. -/
theorem isGreatest_waits {backoff : Duration} (h0 : 0 ≤ backoff.toInt)
    (hlt : backoff.toInt < 2 ^ 62) : IsGreatest (waits backoff) backoff.toInt := by
  constructor
  · have hone := toInt_add_one h0 hlt
    have hnot : ¬ backoff + 1 ≤ 0 := by
      rw [Int64.le_iff_toInt_le, hone]
      simp
      omega
    refine ⟨backoff.toInt.toNat, _, if_neg hnot, ?_⟩
    rw [hone, Int.toNat_of_nonneg h0, Int.emod_eq_of_lt h0 (by omega),
      Int64.toInt_ofInt_of_le (by omega) (by omega)]
  · rintro wait ⟨draw, duration, hdraw, rfl⟩
    exact (int63n_mem h0 hlt hdraw).2

/-! ## The bound of a wait -/

theorem toInt_min (x y : Int64) : (min x y).toInt = min x.toInt y.toInt := by
  rw [show min x y = if x ≤ y then x else y from rfl]
  split
  case isTrue h => exact (min_eq_left (Int64.le_iff_toInt_le.1 h)).symm
  case isFalse h => exact (min_eq_right (by have := mt Int64.le_iff_toInt_le.2 h; omega)).symm

/-- One pass doubles the bound, up to the maximum. -/
theorem pass_waited {maxBackoff backoff next : Duration} {attempt : Attempt} {wait : Wait}
    (hpass : pass maxBackoff backoff attempt = .waited wait next) :
    wait.retryIn = backoff ∧ wait.error = attempt.ending.result ∧
      int63n attempt.draw (backoff + 1) = some wait.duration ∧
      next = min (backoff * 2) maxBackoff := by
  unfold pass at hpass
  split at hpass
  case isTrue => cases hpass
  case isFalse =>
    split at hpass
    case h_1 => cases hpass
    case h_2 duration hduration =>
      split at hpass
      case isTrue => cases hpass
      case isFalse =>
        cases hpass
        exact ⟨rfl, rfl, hduration, rfl⟩

theorem doubled_toInt {maxBackoff backoff : Duration} (h0 : 0 < backoff.toInt)
    (hle : backoff.toInt ≤ maxBackoff.toInt) (hmax : maxBackoff.toInt < 2 ^ 62) :
    (min (backoff * 2) maxBackoff).toInt = min (backoff.toInt * 2) maxBackoff.toInt := by
  have hdouble : (backoff * 2).toInt = backoff.toInt * 2 := by
    rw [Int64.toInt_mul, show (2 : Int64).toInt = 2 from rfl]
    apply Int.bmod_eq_of_le <;> omega
  rw [toInt_min, hdouble]

/-- Doubling the capped bound and capping it again is doubling below the cap. -/
theorem min_doubled {bound cap : ℤ} (hcap : 0 ≤ cap) (n : ℕ) :
    min (min (bound * 2) cap * 2 ^ n) cap = min (bound * 2 ^ (n + 1)) cap := by
  have hpow : (1 : ℤ) ≤ 2 ^ n := one_le_pow₀ (by norm_num)
  have hshift : bound * 2 ^ (n + 1) = bound * 2 * 2 ^ n := by ring
  rw [hshift]
  rcases le_total (bound * 2) cap with hle | hle
  · rw [min_eq_left hle]
  · have hgrows : cap ≤ cap * 2 ^ n := le_mul_of_one_le_right hcap hpow
    have hlarge : cap * 2 ^ n ≤ bound * 2 * 2 ^ n := mul_le_mul_of_nonneg_right hle (by positivity)
    rw [min_eq_right hle, min_eq_right hgrows, min_eq_right (hgrows.trans hlarge)]

/-- The bound of each wait depends on its number alone. -/
theorem runLoop_backoff {maxBackoff backoff : Duration} (h0 : 0 < backoff.toInt)
    (hle : backoff.toInt ≤ maxBackoff.toInt) (hmax : maxBackoff.toInt < 2 ^ 62)
    {attempts : List Attempt} {i : ℕ} {wait : Wait}
    (hwait : (runLoop maxBackoff backoff attempts)[i]? = some wait) :
    i < attempts.length ∧ wait.retryIn.toInt = min (backoff.toInt * 2 ^ i) maxBackoff.toInt ∧
      ∃ draw, int63n draw (wait.retryIn + 1) = some wait.duration := by
  induction attempts generalizing backoff i with
  | nil => simp [runLoop] at hwait
  | cons attempt attempts ih =>
      rw [runLoop] at hwait
      cases hpass : pass maxBackoff backoff attempt with
      | returned => simp [hpass] at hwait
      | panicked => simp [hpass] at hwait
      | waited head next =>
          simp only [hpass] at hwait
          obtain ⟨hretry, -, hdraw, rfl⟩ := pass_waited hpass
          cases i with
          | zero =>
              obtain rfl : head = wait := by simpa using hwait
              refine ⟨Nat.succ_pos _, ?_, attempt.draw, by rw [hretry]; exact hdraw⟩
              rw [hretry, pow_zero, mul_one, min_eq_left hle]
          | succ i =>
              have hnext := doubled_toInt h0 hle hmax
              obtain ⟨hlen, hbound, hduration⟩ := ih (by rw [hnext]; omega) (by rw [hnext]; omega)
                (by simpa using hwait)
              refine ⟨Nat.succ_lt_succ hlen, ?_, hduration⟩
              rw [hbound, hnext, min_doubled (h0.le.trans hle)]

/-! ## Failures in a row -/

/-- Doubling from the smallest bound, up to the largest. -/
def Session.exponential (s : Session) (n : ℕ) : ℤ :=
  min (s.minBackoff.toInt * 2 ^ n) s.maxBackoff.toInt

/-- The failed attempts since the last established connection, or since the start. -/
def consecutiveFailures (attempts : List Attempt) : ℕ :=
  (attempts.reverse.takeWhile fun attempt => !attempt.ending.established).length

theorem consecutiveFailures_le (attempts : List Attempt) :
    consecutiveFailures attempts ≤ attempts.length := by
  calc consecutiveFailures attempts ≤ attempts.reverse.length :=
        (List.takeWhile_sublist _).length_le
    _ = attempts.length := List.length_reverse

theorem consecutiveFailures_of_failed {attempts : List Attempt}
    (hfailed : ∀ attempt ∈ attempts, attempt.ending.established = false) :
    consecutiveFailures attempts = attempts.length := by
  have hall : attempts.reverse.takeWhile (fun attempt => !attempt.ending.established) =
      attempts.reverse := by
    rw [List.takeWhile_eq_self_iff]
    intro attempt hmem
    simp [hfailed attempt (List.mem_reverse.1 hmem)]
  rw [consecutiveFailures, hall, List.length_reverse]

theorem exponential_mono {s : Session} (hmin : 0 < s.minBackoff.toInt) {m n : ℕ} (hle : m ≤ n) :
    s.exponential m ≤ s.exponential n :=
  min_le_min_right _ (mul_le_mul_of_nonneg_left (pow_le_pow_right₀ (by norm_num) hle) hmin.le)

/-- The bound of a wait of `Run`. -/
theorem Run_retryIn {s : Session} (hmin : 0 < s.minBackoff.toInt)
    (hle : s.minBackoff.toInt ≤ s.maxBackoff.toInt) (hmax : s.maxBackoff.toInt < 2 ^ 62)
    {attempts : List Attempt} {i : ℕ} {wait : Wait} (hwait : (s.Run attempts)[i]? = some wait) :
    i < attempts.length ∧ IsGreatest (waits wait.retryIn) (s.exponential i) ∧
      wait.duration.toInt ≤ s.exponential i := by
  have hnotMin : ¬ s.minBackoff ≤ 0 := by
    rw [Int64.le_iff_toInt_le]
    simpa using hmin
  have hnotMax : ¬ s.maxBackoff ≤ 0 := by
    rw [Int64.le_iff_toInt_le]
    simpa using hmin.trans_le hle
  simp only [Session.Run, if_neg hnotMin, if_neg hnotMax] at hwait
  obtain ⟨hlen, hbound, draw, hdraw⟩ := runLoop_backoff hmin hle hmax hwait
  have hpos : 0 < s.minBackoff.toInt * 2 ^ i := by positivity
  have hretry : wait.retryIn.toInt = s.exponential i := hbound
  have h0 : 0 ≤ wait.retryIn.toInt := by omega
  have hlt : wait.retryIn.toInt < 2 ^ 62 := by omega
  refine ⟨hlen, ?_, ?_⟩
  · rw [← hretry]
    exact isGreatest_waits h0 hlt
  · rw [← hretry]
    exact (int63n_mem h0 hlt hdraw).2

/-- The bound starts at the smallest one and never exceeds the doubling for every attempt;
it never falls behind the doubling for every failure in a row after the first one, and is
exactly that while there has been nothing but failures. -/
theorem Run_backoff {s : Session} (hmin : 0 < s.minBackoff.toInt)
    (hle : s.minBackoff.toInt ≤ s.maxBackoff.toInt) (hmax : s.maxBackoff.toInt < 2 ^ 62)
    {attempts : List Attempt} {i : ℕ} {wait : Wait} (hwait : (s.Run attempts)[i]? = some wait) :
    ∃ bound, IsGreatest (waits wait.retryIn) bound ∧ wait.duration.toInt ≤ bound ∧
      (i = 0 → bound = s.minBackoff.toInt) ∧
      s.exponential (consecutiveFailures (attempts.take (i + 1)) - 1) ≤ bound ∧
      bound ≤ s.exponential i ∧
      ((∀ attempt ∈ attempts.take (i + 1), attempt.ending.established = false) →
        bound = s.exponential (consecutiveFailures (attempts.take (i + 1)) - 1)) := by
  obtain ⟨hlen, hgreatest, hduration⟩ := Run_retryIn hmin hle hmax hwait
  have htake : (attempts.take (i + 1)).length = i + 1 := by
    rw [List.length_take]
    omega
  have hfailures := consecutiveFailures_le (attempts.take (i + 1))
  refine ⟨s.exponential i, hgreatest, hduration, fun hzero => ?_,
    exponential_mono hmin (by omega), le_rfl, fun hfailed => ?_⟩
  · rw [hzero, Session.exponential, pow_zero, mul_one, min_eq_left hle]
  · rw [consecutiveFailures_of_failed hfailed, htake, Nat.add_sub_cancel]

/-- An attempt that ends so, with nothing drawn and nothing cancelled. -/
def Attempt.quiet (ending : Ending) : Attempt := ⟨ending, false, 0, false⟩

def defaultSession : Session := ⟨Second, 30 * Second⟩

/-- After one failure the bound is a second, which is a doubling less than the failures in
a row would give.  After two connections that the server closed it is two seconds, although
nothing failed. -/
theorem Run_backoff_not_consecutive :
    (∃ wait, (defaultSession.Run [.quiet (.first (.other "unavailable"))])[0]? = some wait ∧
      IsGreatest (waits wait.retryIn) 1000000000 ∧
      defaultSession.exponential
        (consecutiveFailures [.quiet (.first (.other "unavailable"))]) = 2000000000) ∧
    ∃ wait, (defaultSession.Run [.quiet (.closed none), .quiet (.closed none)])[1]? = some wait ∧
      IsGreatest (waits wait.retryIn) 2000000000 ∧
      defaultSession.exponential
        (consecutiveFailures [.quiet (.closed none), .quiet (.closed none)]) = 1000000000 := by
  refine ⟨⟨⟨some (.other "unavailable"), Second, 0⟩, by decide, ?_, by decide⟩,
    ⟨⟨none, 2 * Second, 0⟩, by decide, ?_, by decide⟩⟩
  · exact @isGreatest_waits Second (by decide) (by decide)
  · exact @isGreatest_waits (2 * Second) (by decide) (by decide)

/-- A server that is not there: the third wait is at most four seconds. -/
theorem Run_backoff_unavailable :
    ∃ wait, (defaultSession.Run (List.replicate 3 (.quiet (.first (.other "unavailable")))))[2]? =
        some wait ∧
      IsGreatest (waits wait.retryIn) 4000000000 := by
  have hwait : (defaultSession.Run
      (List.replicate 3 (.quiet (.first (.other "unavailable")))))[2]? =
        some ⟨some (.other "unavailable"), 4 * Second, 0⟩ := by decide
  obtain ⟨bound, hbound, -, -, -, -, hexact⟩ := @Run_backoff defaultSession (by decide) (by decide)
    (by decide) _ 2 _ hwait
  have hfour : bound = 4000000000 := (hexact (by decide)).trans (by decide)
  exact ⟨_, hwait, hfour ▸ hbound⟩

end ModelHub.Agent
