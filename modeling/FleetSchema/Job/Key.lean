/-
**Keys of jobs.**

Every database gets a job under a key of its own. A key is made of the database's name, in which
each run of characters that no key may hold becomes one underscore; keys that come out alike are
told apart by numbers. The numbers are tried one after the other. Nothing bounds them, but different
numbers make different keys, so every try that fails uses up a key that is taken.

* `baseKey`: the key of a database taken by itself;
* `rejections`: how many keys are tried in vain for a database; `rejections_le`: what bounds them;
* `keys`: the keys of a list of databases.
-/

import Std.Data.String.ToNat

namespace FleetSchema.Job

/-- A character that a key may hold. -/
def isKeyLetter (letter : Char) : Bool :=
  letter.isAlphanum || letter == '_' || letter == '.' || letter == '-'

/-- Put an underscore for each run of characters that no key may hold. -/
def sanitize (inRun : Bool) : List Char → List Char
  | [] => []
  | letter :: rest =>
    if isKeyLetter letter then letter :: sanitize false rest
    else if inRun then sanitize true rest
    else '_' :: sanitize true rest

/-- The key of a database taken by itself. -/
def baseKey (database : String) : String :=
  "push-" ++ String.ofList (sanitize false database.toList)

/-- A key with a number. -/
def numberedKey (base : String) (number : Nat) : String := base ++ "-" ++ toString number

theorem numberedKey_inj (base : String) {first second : Nat} :
    numberedKey base first = numberedKey base second ↔ first = second := by
  constructor
  · exact fun same => Nat.repr_injective ((String.append_right_inj _).mp same)
  · exact congrArg _

theorem numberedKey_ne (base : String) (number : Nat) : numberedKey base number ≠ base := by
  intro same
  have longer := congrArg String.length same
  unfold numberedKey at longer
  rw [String.length_append, String.length_append] at longer
  have mark : "-".length = 1 := rfl
  omega

/-! ### Trying one key after the other -/

/-- The key that is tried behind a number of other ones: the plain one, then those with the numbers
from two on. -/
def candidate (base : String) : Nat → String
  | 0 => base
  | tried + 1 => numberedKey base (tried + 2)

theorem candidate_injective (base : String) {first second : Nat}
    (same : candidate base first = candidate base second) : first = second := by
  cases first with
  | zero =>
    cases second with
    | zero => rfl
    | succ second => exact absurd same.symm (numberedKey_ne base _)
  | succ first =>
    cases second with
    | zero => exact absurd same (numberedKey_ne base _)
    | succ second =>
      have numbers : first + 2 = second + 2 := (numberedKey_inj base).mp same
      omega

/-- How many of the keys that are taken are still to be met, when a number of keys is tried. -/
def unmet (taken : List String) (base : String) (tried : Nat) : Nat :=
  taken.countP fun key => ∀ earlier < tried, key ≠ candidate base earlier

/-- A key that is tried in vain is met for the first time. -/
theorem unmet_succ_lt {taken : List String} {base : String} {tried : Nat}
    (held : candidate base tried ∈ taken) :
    unmet taken base (tried + 1) < unmet taken base tried := by
  have fewer (keys : List String) : unmet keys base (tried + 1) ≤ unmet keys base tried := by
    refine List.countP_mono_left fun key _ unmet => ?_
    rw [decide_eq_true_eq] at unmet ⊢
    exact fun earlier before => unmet earlier (Nat.lt_succ_of_lt before)
  have met : ¬ ∀ earlier < tried + 1, candidate base tried ≠ candidate base earlier :=
    fun unmet => unmet tried (Nat.lt_succ_self tried) rfl
  have first : ∀ earlier < tried, candidate base tried ≠ candidate base earlier :=
    fun earlier before same => Nat.ne_of_gt before (candidate_injective base same)
  -- Only the key itself is counted before this try and not behind it; no other one starts to count.
  obtain ⟨front, back, rfl⟩ := List.append_of_mem held
  have inFront := fewer front
  have inBack := fewer back
  unfold unmet at inFront inBack ⊢
  rw [List.countP_append, List.countP_append, List.countP_cons_of_neg (by simpa using met),
    List.countP_cons_of_pos (by simpa using first)]
  omega

/-- How many keys are tried in vain until one is free, when a number of them is tried already. -/
def rejections (taken : List String) (base : String) (tried : Nat) : Nat :=
  if candidate base tried ∈ taken then rejections taken base (tried + 1) else tried
termination_by unmet taken base tried
decreasing_by exact unmet_succ_lt ‹_›

theorem candidate_rejections_not_mem (taken : List String) (base : String) (tried : Nat) :
    candidate base (rejections taken base tried) ∉ taken := by
  fun_induction rejections taken base tried with
  | case1 tried held ih => exact ih
  | case2 tried free => exact free

theorem candidate_mem_of_lt {taken : List String} {base : String} {tried number : Nat}
    (notBefore : tried ≤ number) (before : number < rejections taken base tried) :
    candidate base number ∈ taken := by
  fun_induction rejections taken base tried with
  | case1 tried held ih =>
    obtain rfl | later := Nat.eq_or_lt_of_le notBefore
    · exact held
    · exact ih later before
  | case2 tried free => omega

/-- Every key that is tried in vain is another one of those taken. -/
theorem rejections_le (taken : List String) (base : String) (tried : Nat) :
    rejections taken base tried ≤ tried + unmet taken base tried := by
  fun_induction rejections taken base tried with
  | case1 tried held ih =>
    have met := unmet_succ_lt held
    omega
  | case2 tried free => exact Nat.le_add_right _ _

/-! ### Keys of several databases -/

/-- The first key that is not taken: the plain one, or the one with the least number. -/
def freshKey (taken : List String) (base : String) : String :=
  candidate base (rejections taken base 0)

/-- The keys of databases behind keys that are taken. -/
def keysAfter (taken : List String) : List String → List String
  | [] => []
  | database :: rest =>
    let key := freshKey taken (baseKey database)
    key :: keysAfter (key :: taken) rest

/-- The keys of a list of databases, one for each. -/
def keys (databases : List String) : List String := keysAfter [] databases

end FleetSchema.Job
