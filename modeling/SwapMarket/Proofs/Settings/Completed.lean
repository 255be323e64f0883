import SwapMarket.Proofs.Run
import SwapMarket.Proofs.Settings.Lines
import SwapMarket.Proofs.Table

/-!
# Completed variables

Two texts complete the environment. They never change a variable that is set, and of the other
variables they set those that they mention: to the value of the first line in the first text, and if
there is none, to that of the first line in the second text (**`Gives`**). Variables are set one by
one, and one that is set is not set again; so of all lines the first of a variable counts, the first
text before the second (`addAll_cases`). A variable that cannot be set ends the run, and nothing
else does. It comes of lines such as `=value`, which are read as if they had a name.

Main statement: **`variables_completed`**.
-/

namespace SwapMarket.Variables

variable {env : Variables} {es : List (String × String)} {k k' v v' : String}

/-! ## Variables set in turn -/

/-- Setting variables in turn adds a value: the variable is not set, and the value is its first. -/
structure Adds (env : Variables) (es : List (String × String)) (k v : String) : Prop where
  /-- The variable is not set. -/
  free : env.find? k = none
  /-- It is given this value first. -/
  first : es.lookup k = some v

/-- An entry under another name is passed over. -/
theorem lookup_cons_of_ne (h : k ≠ k') : ((k', v') :: es).lookup k = es.lookup k := by
  rw [List.lookup_cons, beq_false_of_ne h]

/-- An entry of a variable that is set adds nothing. -/
theorem adds_cons_of_some {w : String} (h : env.find? k' = some w) :
    Adds env ((k', v') :: es) k v ↔ Adds env es k v := by
  have hne (hfree : env.find? k = none) : k ≠ k' := by
    rintro rfl
    rw [h] at hfree
    cases hfree
  constructor
  · rintro ⟨hfree, hfirst⟩
    exact ⟨hfree, lookup_cons_of_ne (hne hfree) ▸ hfirst⟩
  · rintro ⟨hfree, hfirst⟩
    exact ⟨hfree, (lookup_cons_of_ne (hne hfree)).trans hfirst⟩

/-- An entry of a variable that is not set adds its value, and then the others follow. -/
theorem adds_cons_of_none (h : env.find? k' = none) :
    Adds env ((k', v') :: es) k v ↔ (k = k' ∧ v = v') ∨ Adds (env.insert k' v') es k v := by
  by_cases hk : k = k'
  · subst hk
    constructor
    · rintro ⟨-, hfirst⟩
      rw [List.lookup_cons_self, Option.some.injEq] at hfirst
      exact .inl ⟨rfl, hfirst.symm⟩
    · rintro (⟨-, rfl⟩ | ⟨hfree, -⟩)
      · exact ⟨h, List.lookup_cons_self⟩
      · rw [Table.find?_insert, if_pos rfl] at hfree
        cases hfree
  · have hfind : (env.insert k' v').find? k = env.find? k := by
      rw [Table.find?_insert, if_neg hk]
    constructor
    · rintro ⟨hfree, hfirst⟩
      exact .inr ⟨hfind.trans hfree, lookup_cons_of_ne hk ▸ hfirst⟩
    · rintro (⟨he, -⟩ | ⟨hfree, hfirst⟩)
      · exact absurd he hk
      · exact ⟨hfind ▸ hfree, (lookup_cons_of_ne hk).trans hfirst⟩

/-- Variables are all set if they can be, and else the run ends. -/
theorem addAll_cases (env : Variables) (es : List (String × String)) :
    (∃ env', addAll env es = .ok env' ∧ (∀ k v, Adds env es k v → canBeSet k v = true) ∧
      ∀ k v, env'.find? k = some v ↔ env.find? k = some v ∨ Adds env es k v) ∨
    addAll env es = .error .unsettable ∧ ∃ k v, Adds env es k v ∧ canBeSet k v = false := by
  -- By induction on the entries, for all environments: an entry is passed over, and the environment
  -- stays, or it is set, and the others find an environment with it.
  induction es generalizing env with
  | nil =>
    have hnone (k v : String) : ¬ Adds env [] k v := fun h => nomatch h.first
    refine .inl ⟨env, rfl, fun k v h => absurd h (hnone k v), fun k v => ?_⟩
    simp [hnone]
  | cons e es ih =>
    obtain ⟨k', v'⟩ := e
    unfold addAll
    split
    · next hcontains =>
      obtain ⟨w, hw⟩ := Table.contains_iff.1 hcontains
      simp only [adds_cons_of_some hw]
      exact ih env
    · next hcontains =>
      have hfree : env.find? k' = none := by
        rw [Table.contains_iff, not_exists] at hcontains
        exact Option.eq_none_iff_forall_ne_some.2 hcontains
      simp only [adds_cons_of_none hfree]
      split
      · next hset =>
        rcases ih (env.insert k' v') with ⟨env', hok, hcan, hfind⟩ | ⟨herror, k, v, hadds, hcan⟩
        · refine .inl ⟨env', hok, ?_, ?_⟩
          · rintro k v (⟨rfl, rfl⟩ | hadds)
            · exact hset
            · exact hcan k v hadds
          · intro k v
            rw [hfind, Table.find?_insert, ← or_assoc]
            refine or_congr_left ?_
            by_cases hk : k = k'
            · subst hk
              simp [hfree, eq_comm]
            · simp [hk]
        · exact .inr ⟨herror, k, v, .inr hadds, hcan⟩
      · next hset =>
        exact .inr ⟨rfl, k', v', .inl ⟨rfl, rfl⟩, eq_false_of_ne_true hset⟩

/-! ## Two texts -/

/-- What two texts give a variable: the value of its first line in the first text, if that mentions
it, and else the value of its first line in the second. -/
inductive Gives (first : Option String) (second k v : String) : Prop
  /-- The first text comes first. -/
  | byFirst {text : String} (hfirst : first = some text) (h : FirstSets text k v)
  /-- The second text is for what the first does not mention. -/
  | bySecond (hfirst : ∀ text, first = some text → ¬ Mentions text k) (h : FirstSets second k v)

variable {first : Option String} {second : String}

/-- The lines of the first text come before those of the second. -/
theorem lookup_append_ofText :
    (((first.map ofText).getD []) ++ ofText second).lookup k = some v ↔ Gives first second k v := by
  rw [List.lookup_append, Option.or_eq_some_iff, lookup_ofText_eq_some_iff]
  cases first with
  | none =>
    constructor
    · rintro (h | ⟨-, h⟩)
      · cases h
      · exact .bySecond nofun h
    · rintro (⟨⟨⟩, -⟩ | ⟨-, h⟩)
      exact .inr ⟨rfl, h⟩
  | some text =>
    rw [Option.map_some, Option.getD_some, lookup_ofText_eq_some_iff, lookup_ofText_eq_none_iff]
    constructor
    · rintro (h | ⟨hnone, h⟩)
      · exact .byFirst rfl h
      · refine .bySecond ?_ h
        rintro _ ⟨⟩
        exact hnone
    · rintro (⟨⟨⟩, h⟩ | ⟨hfirst, h⟩)
      · exact .inl h
      · exact .inr ⟨hfirst text rfl, h⟩

/-- Setting the variables of two texts adds what the texts give. -/
theorem adds_iff : Adds env (((first.map ofText).getD []) ++ ofText second) k v ↔
    env.find? k = none ∧ Gives first second k v := by
  rw [← lookup_append_ofText]
  constructor
  · rintro ⟨hfree, hfirst⟩
    exact ⟨hfree, hfirst⟩
  · rintro ⟨hfree, hfirst⟩
    exact ⟨hfree, hfirst⟩

/-- Two texts complete the environment with what they give, unless that cannot be set. -/
theorem completed_cases (env : Variables) (first : Option String) (second : String) :
    (∃ env', env.completed first (some second) = .ok env' ∧
      (∀ k v, env.find? k = none → Gives first second k v → canBeSet k v = true) ∧
      ∀ k v, env'.find? k = some v ↔
        env.find? k = some v ∨ env.find? k = none ∧ Gives first second k v) ∨
    env.completed first (some second) = .error .unsettable ∧
      ∃ k v, env.find? k = none ∧ Gives first second k v ∧ canBeSet k v = false := by
  have hcases := addAll_cases env (((first.map ofText).getD []) ++ ofText second)
  simp only [adds_iff, and_imp, and_assoc] at hcases
  exact hcases

/-- Idle lines of either text make no difference. -/
theorem completed_congr {text text' : String} (h : busyLines text = busyLines text')
    (env : Variables) (first : Option String) (second : String) :
    env.completed (some text) (some second) = env.completed (some text') (some second) ∧
      env.completed first (some text) = env.completed first (some text') := by
  have hof : ofText text = ofText text' := ofText_congr h
  constructor
  · show env.addAll (ofText text ++ ofText second) = env.addAll (ofText text' ++ ofText second)
    rw [hof]
  · show env.addAll (((first.map ofText).getD []) ++ ofText text)
      = env.addAll (((first.map ofText).getD []) ++ ofText text')
    rw [hof]

/-- Two texts complete the environment, of which the first may be missing.

* They do so if and only if every variable that is not set, and that they mention, can be set to the
  value that they give it. Else the run ends.
* Afterwards a variable has the value that it had before, and if it had none, the one that the texts
  give it. Nothing else is set.
* Blank lines, comments and lines without an equals sign make no difference, in either text. -/
theorem variables_completed (env : Variables) (first : Option String) (second : String) :
    ((∃ env', env.completed first (some second) = .ok env') ↔
      ∀ k v, env.find? k = none → Gives first second k v → canBeSet k v = true) ∧
    (∀ k v, env.find? k = none → Gives first second k v → canBeSet k v = false →
      env.completed first (some second) = .error .unsettable) ∧
    (∀ env', env.completed first (some second) = .ok env' → ∀ k v, env'.find? k = some v ↔
      env.find? k = some v ∨ env.find? k = none ∧ Gives first second k v) ∧
    ∀ text text', busyLines text = busyLines text' →
      env.completed (some text) (some second) = env.completed (some text') (some second) ∧
      env.completed first (some text) = env.completed first (some text') := by
  have hlines (text text' : String) (h : busyLines text = busyLines text') :=
    completed_congr h env first second
  rcases completed_cases env first second with
    ⟨env', hok, hcan, hfind⟩ | ⟨herror, k, v, hfree, h, hnot⟩
  · refine ⟨iff_of_true ⟨env', hok⟩ hcan, ?_, ?_, hlines⟩
    · intro k v hfree h hnot
      rw [hcan k v hfree h] at hnot
      cases hnot
    · intro env'' hok'
      rw [hok] at hok'
      cases hok'
      exact hfind
  · refine ⟨iff_of_false ?_ ?_, fun _ _ _ _ _ => herror, ?_, hlines⟩
    · rintro ⟨env', hok⟩
      rw [herror] at hok
      cases hok
    · intro hcan
      rw [hcan k v hfree h] at hnot
      cases hnot
    · intro env' hok
      rw [herror] at hok
      cases hok

/-- A variable that is set, one of both texts, and one of the second only. -/
theorem variables_completed_inOrder :
    ∃ env', completed (.ofList [("PORT", "1")])
        (some "# NETIDS=1\nbroken\n PORT = 2\nTIMEOUT= 5 \nTIMEOUT=6\n")
        (some "TIMEOUT=10\nNETIDS=7777\n") = .ok env' ∧
      env'.find? "PORT" = some "1" ∧ env'.find? "TIMEOUT" = some "5" ∧
      env'.find? "NETIDS" = some "7777" := by
  obtain ⟨-, -, hfind, -⟩ := variables_completed (.ofList [("PORT", "1")])
    (some "# NETIDS=1\nbroken\n PORT = 2\nTIMEOUT= 5 \nTIMEOUT=6\n")
    "TIMEOUT=10\nNETIDS=7777\n"
  have hok : completed (.ofList [("PORT", "1")])
      (some "# NETIDS=1\nbroken\n PORT = 2\nTIMEOUT= 5 \nTIMEOUT=6\n")
      (some "TIMEOUT=10\nNETIDS=7777\n")
      = .ok (.ofList [("PORT", "1"), ("TIMEOUT", "5"), ("NETIDS", "7777")]) :=
    Run.toOption_eq_some.1 (by decide +kernel)
  refine ⟨_, hok, (hfind _ hok _ _).2 (.inl rfl), (hfind _ hok _ _).2 (.inr ⟨rfl, ?_⟩),
    (hfind _ hok _ _).2 (.inr ⟨rfl, ?_⟩)⟩
  · exact .byFirst rfl (lookup_ofText_eq_some_iff.1 (by decide +kernel))
  · refine .bySecond ?_ (lookup_ofText_eq_some_iff.1 (by decide +kernel))
    rintro _ ⟨⟩
    exact lookup_ofText_eq_none_iff.1 (by decide +kernel)

/-- A line with a value and no name ends the run, although nothing is wrong with the lines beside
it. -/
theorem variables_completed_unless_unnamed :
    completed .empty (some "PORT=7001\n=value\n") (some "PORT=7068\n") = .error .unsettable :=
  rfl

end SwapMarket.Variables
