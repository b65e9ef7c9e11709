import Jitter.Proofs.ConversionLosses
import Jitter.Proofs.WaitReadings

/-! A stepped clock keeps exact account of all that it is asked for, in whatever order. -/

namespace Jitter.SteppedClock

/-- What a clock can be asked for. Its clones share one state, so that it does not matter which is asked. -/
inductive Request where
  | monotonic
  | cycles
  | advance (ns : Int)
  | setStep (step : Int)
  | sleep (us : Nat)
  deriving DecidableEq, Repr

inductive Answer where
  | time (ns : Int)
  | count (n : Nat)
  | done
  deriving DecidableEq, Repr

def answer : Request → EStateM Fault SteppedClock Answer
  | .monotonic => do pure (.time (← Clock.monotonic))
  | .cycles => do pure (.count (← Clock.cycles))
  | .advance ns => do
    modify (SteppedClock.advance ns)
    pure .done
  | .setStep step => do
    modify (SteppedClock.setStep step)
    pure .done
  | .sleep us => do
    modify (Clock.sleep us)
    pure .done

/-- The steps in force at the readings, when `step` is in force at first. -/
def stepsRead (step : Int) : List Request → List Int
  | [] => []
  | .monotonic :: rest | .cycles :: rest => step :: stepsRead step rest
  | .setStep next :: rest => stepsRead next rest
  | .advance _ :: rest | .sleep _ :: rest => stepsRead step rest

def stepAfter (step : Int) : List Request → Int
  | [] => step
  | .setStep next :: rest => stepAfter next rest
  | _ :: rest => stepAfter step rest

def advances (requests : List Request) : List Int :=
  requests.filterMap fun
    | .advance ns => some ns
    | _ => none

def slept (requests : List Request) : List Nat :=
  requests.filterMap fun
    | .sleep us => some us
    | _ => none

/-- The time by all readings, advances and sleeps, however large it is. -/
def timeAfter (step : Int) (requests : List Request) : Int :=
  nanosPerSecond + (stepsRead step requests).sum + (advances requests).sum +
    1000 * ((slept requests).sum : Nat)

def timeAt (step : Int) (requests : List Request) (i : Nat) : Int :=
  timeAfter step (requests.take (i + 1))

/-- The whole ticks of a counter up to a time, and none before time zero. -/
def ticks (frequency : Nat) (t : Int) : Nat := rescaled frequency nanosPerSecond t.toNat

def moved (step : Int) : Request → Int
  | .monotonic | .cycles => step
  | .advance ns => ns
  | .setStep _ => 0
  | .sleep us => 1000 * us

def told (step : Int) (frequency : Nat) (past : List Request) : Request → Answer
  | .monotonic => .time (timeAfter step (past ++ [.monotonic]))
  | .cycles =>
    .count (ticks frequency (timeAfter step (past ++ [.cycles])) % word64)
  | _ => .done

variable {step : Int} {frequency i j : Nat} {past rest requests : List Request} {r : Request}
  {c d : SteppedClock}

theorem stepsRead_append :
    stepsRead step (past ++ rest) = stepsRead step past ++ stepsRead (stepAfter step past) rest := by
  induction past generalizing step with
  | nil => rfl
  | cons r past ih =>
      cases r with
      | monotonic => exact congrArg (step :: ·) ih
      | cycles => exact congrArg (step :: ·) ih
      | advance ns => exact ih
      | setStep next => exact ih
      | sleep us => exact ih

theorem stepAfter_append :
    stepAfter step (past ++ rest) = stepAfter (stepAfter step past) rest := by
  induction past generalizing step with
  | nil => rfl
  | cons r past ih =>
      cases r with
      | setStep next => exact ih
      | monotonic => exact ih
      | cycles => exact ih
      | advance ns => exact ih
      | sleep us => exact ih

theorem length_stepsRead :
    (stepsRead step requests).length = requests.count .monotonic + requests.count .cycles := by
  induction requests generalizing step with
  | nil => rfl
  | cons r requests ih =>
      cases r with
      | monotonic =>
          simp [stepsRead, ih]
          omega
      | cycles =>
          simp [stepsRead, ih]
          omega
      | advance ns => simp [stepsRead, ih]
      | setStep next => simp [stepsRead, ih]
      | sleep us => simp [stepsRead, ih]

theorem advances_append : advances (past ++ rest) = advances past ++ advances rest :=
  List.filterMap_append

theorem slept_append : slept (past ++ rest) = slept past ++ slept rest := List.filterMap_append

theorem timeAfter_snoc :
    timeAfter step (past ++ [r]) = timeAfter step past + moved (stepAfter step past) r := by
  simp only [timeAfter, stepsRead_append, advances_append, slept_append, List.sum_append]
  cases r with
  | monotonic =>
      simp [stepsRead, advances, slept, moved]
      ring
  | cycles =>
      simp [stepsRead, advances, slept, moved]
      ring
  | advance ns =>
      simp [stepsRead, advances, slept, moved]
      ring
  | setStep next => simp [stepsRead, advances, slept, moved]
  | sleep us =>
      simp [stepsRead, advances, slept, moved]
      ring

theorem tick_of_fits (fits : Signed.Fits (c.now + c.step)) :
    tick c = .ok (c.now + c.step)
      { c with now := c.now + c.step, reads := Unsigned.wrap word64 (c.reads + 1) } := by
  simp only [tick, Signed.add, advance, Signed.wrap, if_pos fits]

theorem cyclesAt_of_word {t : Int} (fits : t ≤ Signed.greatest) (word : frequency < word64) :
    cyclesAt frequency t = .ok (ticks frequency t % word64) := by
  rw [cyclesAt, Unsigned.mul_of_lt (Signed.toNat_mul_lt fits word)]
  rfl

/-- What a clock shows is what the account of its requests says. -/
structure Accounts (step : Int) (frequency : Nat) (past : List Request) (c : SteppedClock) :
    Prop where
  now_eq : c.now = timeAfter step past
  step_eq : c.step = stepAfter step past
  frequency_eq : c.frequency = frequency
  reads_eq : c.reads = (stepsRead step past).length % word64
  sleeps_eq : c.sleeps.reverse = slept past

namespace Accounts

theorem start (step : Int) (frequency : Nat) (counter : Bool) :
    Accounts step frequency [] { new step frequency with counter } := ⟨rfl, rfl, rfl, rfl, rfl⟩

theorem next (kept : Accounts step frequency past c)
    (now : d.now = timeAfter step past + moved (stepAfter step past) r)
    (force : d.step = stepAfter (stepAfter step past) [r]) (same : d.frequency = c.frequency)
    (reads : d.reads = (c.reads + (stepsRead (stepAfter step past) [r]).length) % word64)
    (sleeps : d.sleeps.reverse = c.sleeps.reverse ++ slept [r]) :
    Accounts step frequency (past ++ [r]) d where
  now_eq := now.trans timeAfter_snoc.symm
  step_eq := force.trans stepAfter_append.symm
  frequency_eq := same.trans kept.frequency_eq
  reads_eq := by rw [reads, stepsRead_append, List.length_append, kept.reads_eq, Nat.mod_add_mod]
  sleeps_eq := by rw [sleeps, kept.sleeps_eq, slept_append]

theorem tick (kept : Accounts step frequency past c) (reading : r = .monotonic ∨ r = .cycles)
    (fits : Signed.Fits (timeAfter step (past ++ [r]))) :
    ∃ d, SteppedClock.tick c = .ok (timeAfter step (past ++ [r])) d ∧
      Accounts step frequency (past ++ [r]) d := by
  have forward : timeAfter step (past ++ [r]) = c.now + c.step := by
    rw [timeAfter_snoc, kept.now_eq, kept.step_eq]
    rcases reading with rfl | rfl
    · rfl
    · rfl
  rw [forward] at fits ⊢
  refine ⟨_, tick_of_fits fits, ?_⟩
  have counted := Unsigned.wrap_word64 (c.reads + 1)
  have slept := (List.append_nil c.sleeps.reverse).symm
  rw [kept.now_eq, kept.step_eq]
  rcases reading with rfl | rfl
  · exact kept.next rfl rfl rfl counted slept
  · exact kept.next rfl rfl rfl counted slept

theorem answer (kept : Accounts step frequency past c) (word : frequency < word64)
    (fits : Signed.Fits (timeAfter step (past ++ [r])))
    (short : ∀ us, r = .sleep us → ((us * 1000 : Nat) : Int) ≤ Signed.greatest) :
    Completes (SteppedClock.answer r) c fun a d =>
      a = told step frequency past r ∧ Accounts step frequency (past ++ [r]) d := by
  have silent := (List.append_nil c.sleeps.reverse).symm
  have unread : c.reads = (c.reads + 0) % word64 := by rw [kept.reads_eq, Nat.add_zero, Nat.mod_mod]
  cases r with
  | monotonic =>
      obtain ⟨d, ticked, after⟩ := kept.tick (.inl rfl) fits
      exact .of_ok (bind_of_ok ticked) ⟨rfl, after⟩
  | cycles =>
      obtain ⟨d, ticked, after⟩ := kept.tick (.inr rfl) fits
      have counted : (Clock.cycles : EStateM Fault SteppedClock Nat) c =
          .ok (ticks frequency (timeAfter step (past ++ [.cycles])) % word64) d := by
        refine (bind_of_ok ticked).trans ?_
        rw [run_get_bind, SteppedClock.counted, after.frequency_eq, cyclesAt_of_word fits.2 word]
        rfl
      exact .of_ok (bind_of_ok counted) ⟨rfl, after⟩
  | advance ns =>
      refine .of_ok rfl ⟨rfl, kept.next ?_ kept.step_eq rfl unread silent⟩
      rw [timeAfter_snoc, ← kept.now_eq] at fits
      rw [← kept.now_eq]
      exact if_pos fits
  | setStep next =>
      exact .of_ok rfl ⟨rfl, kept.next (kept.now_eq.trans (add_zero _).symm) rfl rfl unread silent⟩
  | sleep us =>
      have long := SteppedClock.sleep_eq_advance (short us rfl) c
      refine .of_ok rfl ⟨rfl, ?_⟩
      change Accounts step frequency (past ++ [.sleep us]) (c.sleep us)
      rw [long]
      refine kept.next ?_ kept.step_eq rfl unread ?_
      · have moves : moved (stepAfter step past) (.sleep us) = (us * 1000 : Nat) := by
          simp only [moved]
          omega
        rw [timeAfter_snoc, ← kept.now_eq, moves] at fits
        rw [← kept.now_eq, moves]
        exact if_pos fits
      · exact List.reverse_cons

theorem answers (kept : Accounts step frequency past c) (word : frequency < word64)
    (fits : ∀ n ≤ rest.length, Signed.Fits (timeAfter step (past ++ rest.take n)))
    (short : ∀ us, .sleep us ∈ rest → ((us * 1000 : Nat) : Int) ≤ Signed.greatest) :
    Completes (rest.mapM SteppedClock.answer) c fun as d =>
      Accounts step frequency (past ++ rest) d ∧ as.length = rest.length ∧
        ∀ i r, rest[i]? = some r →
          as[i]? = some (told step frequency (past ++ rest.take i) r) := by
  induction rest generalizing past c with
  | nil => exact .pure ⟨by rwa [List.append_nil], rfl, fun i r absurdly => by simp at absurdly⟩
  | cons r rest ih =>
      have snoc (n : Nat) : past ++ (r :: rest).take (n + 1) = past ++ [r] ++ rest.take n := by simp
      have now := fits 1 (by simp)
      rw [snoc 0, List.take_zero, List.append_nil] at now
      rw [List.mapM_cons]
      apply (kept.answer word now fun us same => short us (same ▸ List.mem_cons_self)).bind
      rintro a d ⟨rfl, after⟩
      have later := ih after (fun n within => snoc n ▸ fits (n + 1) (Nat.succ_le_succ within))
        fun us member => short us (List.mem_cons_of_mem r member)
      apply later.bind
      rintro as d' ⟨ended, counted, told⟩
      refine .pure ⟨?_, congrArg (· + 1) counted, ?_⟩
      · rwa [List.append_assoc] at ended
      · intro i r' here
        cases i with
        | zero =>
            cases here
            rw [List.take_zero, List.append_nil]
            rfl
        | succ i =>
            rw [snoc i]
            exact told i r' here

end Accounts

def Request.Forward : Request → Prop
  | .advance ns => 0 ≤ ns
  | .setStep step => 0 ≤ step
  | _ => True

theorem stepAfter_nonneg (nonneg : 0 ≤ step) (forward : ∀ r ∈ past, r.Forward) :
    0 ≤ stepAfter step past := by
  induction past generalizing step with
  | nil => exact nonneg
  | cons r past ih =>
      have later : ∀ r ∈ past, r.Forward := fun r' member => forward r' (List.mem_cons_of_mem r member)
      cases r with
      | setStep next => exact ih (forward (.setStep next) List.mem_cons_self) later
      | monotonic => exact ih nonneg later
      | cycles => exact ih nonneg later
      | advance ns => exact ih nonneg later
      | sleep us => exact ih nonneg later

theorem moved_nonneg (nonneg : 0 ≤ step) (forward : r.Forward) : 0 ≤ moved step r := by
  cases r with
  | monotonic => exact nonneg
  | cycles => exact nonneg
  | advance ns => exact forward
  | setStep next => exact Int.le_refl 0
  | sleep us =>
      simp only [moved]
      omega

theorem timeAfter_le_append (nonneg : 0 ≤ step) (forward : ∀ r ∈ past ++ rest, r.Forward) :
    timeAfter step past ≤ timeAfter step (past ++ rest) := by
  induction rest using List.reverseRecOn with
  | nil => rw [List.append_nil]
  | append_singleton rest r ih =>
      rw [← List.append_assoc] at forward ⊢
      have before : ∀ r ∈ past ++ rest, r.Forward :=
        fun r' member => forward r' (List.mem_append_left [r] member)
      have last := moved_nonneg (stepAfter_nonneg nonneg before)
        (forward r (List.mem_append_right _ List.mem_cons_self))
      have earlier := ih before
      rw [timeAfter_snoc]
      omega

theorem timeAfter_take_le (nonneg : 0 ≤ step) (forward : ∀ r ∈ requests, r.Forward) (order : i ≤ j) :
    timeAfter step (requests.take i) ≤ timeAfter step (requests.take j) := by
  have split : requests.take j = requests.take i ++ (requests.take j).drop i := by
    conv_lhs => rw [← List.take_append_drop i (requests.take j), List.take_take, min_eq_left order]
  rw [split]
  apply timeAfter_le_append nonneg
  rw [← split]
  exact fun r member => forward r (List.mem_of_mem_take member)

theorem timeAt_nonneg (nonneg : 0 ≤ step) (forward : ∀ r ∈ requests, r.Forward) :
    0 ≤ timeAt step requests i := by
  have start : timeAfter step (requests.take 0) = nanosPerSecond := rfl
  have later : timeAfter step (requests.take 0) ≤ timeAt step requests i :=
    timeAfter_take_le nonneg forward (Nat.zero_le _)
  rw [start] at later
  exact Int.le_trans (Int.natCast_nonneg _) later

theorem ticks_near (frequency : Nat) {t u : Int} (nonneg : 0 ≤ t) (order : t ≤ u) :
    ticks frequency t ≤ ticks frequency u ∧
      |((ticks frequency u : Int) - ticks frequency t) * nanosPerSecond - (u - t) * frequency| <
        nanosPerSecond := by
  obtain ⟨a, rfl⟩ := Int.eq_ofNat_of_zero_le nonneg
  obtain ⟨b, rfl⟩ := Int.eq_ofNat_of_zero_le (Int.le_trans nonneg order)
  have first := rescaled_bounds (p := frequency) (by decide : 0 < nanosPerSecond) a
  have second := rescaled_bounds (p := frequency) (by decide : 0 < nanosPerSecond) b
  simp only [ticks, Int.toNat_natCast]
  refine ⟨rescaled_mono (by omega), ?_⟩
  zify at first second
  rw [abs_lt]
  constructor
  · linarith
  · linarith

theorem told_monotonic (here : requests[i]? = some .monotonic) :
    told step frequency (requests.take i) .monotonic = .time (timeAt step requests i) := by
  rw [told, timeAt, List.take_add_one, here, Option.toList_some]

theorem told_cycles (here : requests[i]? = some .cycles) :
    told step frequency (requests.take i) .cycles =
      .count (ticks frequency (timeAt step requests i) % word64) := by
  rw [told, timeAt, List.take_add_one, here, Option.toList_some]

theorem told_eq_time {t : Int} (here : requests[i]? = some r)
    (shown : told step frequency (requests.take i) r = .time t) : t = timeAt step requests i := by
  cases r with
  | monotonic => exact (Answer.time.inj ((told_monotonic here).symm.trans shown)).symm
  | cycles => cases shown
  | advance ns => cases shown
  | setStep next => cases shown
  | sleep us => cases shown

theorem told_eq_count {n : Nat} (here : requests[i]? = some r)
    (shown : told step frequency (requests.take i) r = .count n) :
    n = ticks frequency (timeAt step requests i) % word64 := by
  cases r with
  | monotonic => cases shown
  | cycles => exact (Answer.count.inj ((told_cycles here).symm.trans shown)).symm
  | advance ns => cases shown
  | setStep next => cases shown
  | sleep us => cases shown

/-- Whatever a clock is asked for, in whatever order, its time is the sum of the steps read, the advances
and the sleeps. Where none of these is negative neither instrument runs back, and they agree to within a
tick. -/
theorem requests_keep_account (step : Int) (frequency : Nat) (counter : Bool)
    (requests : List Request) (word : frequency < word64)
    (fits : ∀ n ≤ requests.length, Signed.Fits (timeAfter step (requests.take n)))
    (short : ∀ us, .sleep us ∈ requests → ((us * 1000 : Nat) : Int) ≤ Signed.greatest) :
    ∃ (as : List Answer) (c : SteppedClock),
      requests.mapM answer { new step frequency with counter } = .ok as c ∧
      c.now = timeAfter step requests ∧
      c.reads = (requests.count .monotonic + requests.count .cycles) % word64 ∧
      c.sleeps.reverse = slept requests ∧ as.length = requests.length ∧
      (∀ i : Nat, requests[i]? = some .monotonic → as[i]? = some (.time (timeAt step requests i))) ∧
      (∀ i : Nat, requests[i]? = some .cycles →
        as[i]? = some (.count (ticks frequency (timeAt step requests i) % word64))) ∧
      (0 ≤ step → (∀ r ∈ requests, r.Forward) → ∀ i j : Nat, i ≤ j →
        (∀ t u : Int, as[i]? = some (.time t) → as[j]? = some (.time u) → t ≤ u) ∧
        (∀ m n : Nat, as[i]? = some (.count m) → as[j]? = some (.count n) →
          ticks frequency (timeAt step requests j) < word64 →
            m ≤ n ∧ |((n : Int) - m) * nanosPerSecond -
              (timeAt step requests j - timeAt step requests i) * frequency| < nanosPerSecond)) := by
  obtain ⟨as, c, answered, kept, counted, told⟩ :=
    (Accounts.start step frequency counter).answers word fits short
  simp only [List.nil_append] at kept told
  have asked {i : Nat} {a : Answer} (here : as[i]? = some a) :
      ∃ r, requests[i]? = some r ∧ SteppedClock.told step frequency (requests.take i) r = a := by
    obtain ⟨within, -⟩ := List.getElem?_eq_some_iff.mp here
    have request := List.getElem?_eq_getElem (counted ▸ within)
    exact ⟨_, request, Option.some.inj ((told i _ request).symm.trans here)⟩
  refine ⟨as, c, answered, kept.now_eq, ?_, kept.sleeps_eq, counted, ?_, ?_, ?_⟩
  · rw [kept.reads_eq, length_stepsRead]
  · intro i here
    rw [told i _ here, told_monotonic here]
  · intro i here
    rw [told i _ here, told_cycles here]
  · intro nonneg forward i j order
    have later : timeAt step requests i ≤ timeAt step requests j :=
      timeAfter_take_le nonneg forward (Nat.succ_le_succ order)
    refine ⟨fun t u first second => ?_, fun m n first second below => ?_⟩
    · obtain ⟨r, here, shown⟩ := asked first
      obtain ⟨r', there, shown'⟩ := asked second
      rwa [told_eq_time here shown, told_eq_time there shown']
    · obtain ⟨r, here, shown⟩ := asked first
      obtain ⟨r', there, shown'⟩ := asked second
      have near := ticks_near frequency (timeAt_nonneg nonneg forward) later
      rw [told_eq_count here shown, told_eq_count there shown', Nat.mod_eq_of_lt below,
        Nat.mod_eq_of_lt (Nat.lt_of_le_of_lt near.1 below)]
      exact near

/-- Steps change between readings, and a tick is less than half a nanosecond. -/
theorem seven_requests_accounted :
    let requests : List Request :=
      [.monotonic, .cycles, .setStep 3, .advance 500, .sleep 2, .cycles, .monotonic]
    ∃ (as : List Answer) (c : SteppedClock),
      requests.mapM answer (new 10 2400000001) = .ok as c ∧ c.now = 1000002526 ∧ c.reads = 4 ∧
        c.sleeps.reverse = [2] ∧ as[6]? = some (.time 1000002526) ∧
        as[1]? = some (.count 2400000049) ∧ as[5]? = some (.count 2400006056) ∧
        |((2400006056 : Int) - 2400000049) * 1000000000 - (1000002523 - 1000000020) * 2400000001| <
          1000000000 := by
  intro requests
  have fits : ∀ n ≤ requests.length, Signed.Fits (timeAfter 10 (requests.take n)) := by decide
  have short : ∀ us, .sleep us ∈ requests → ((us * 1000 : Nat) : Int) ≤ Signed.greatest := by
    intro us member
    simp [requests] at member
    rw [member]
    decide
  obtain ⟨as, c, answered, now, reads, sleeps, -, times, counts, agree⟩ :=
    requests_keep_account 10 2400000001 true requests (by decide) fits short
  have forward : ∀ r ∈ requests, r.Forward := by simp [requests, Request.Forward]
  have early : ticks 2400000001 (timeAt 10 requests 1) % word64 = 2400000049 := by decide
  have late : ticks 2400000001 (timeAt 10 requests 5) % word64 = 2400006056 := by decide
  have first := counts 1 rfl
  have second := counts 5 rfl
  rw [early] at first
  rw [late] at second
  have near := (agree (by decide) forward 1 5 (by decide)).2 _ _ first second (by decide)
  exact ⟨as, c, answered, now, reads, sleeps, times 6 rfl, first, second, near.2⟩

end Jitter.SteppedClock
