/-
How often the matchers are gone through.

A registry goes through its matchers to answer a tag, and remembers what came of it,
path or miss.  So of the questions about one tag only the first can cost anything, until
the registry is configured or invalidated and has to begin anew.  Which questions these
are can be said of the history alone (`isFresh`): there are matchers, and the tag was not
asked for since.

What carries the count through a history is that the two memories together hold the tags
that were asked for since the registry got its matchers, all of them and no others
(`remembers_run`).  A question then adds one to the count if it is fresh, and all else
adds nothing (`lookups_after`).
-/
import AppBuild.Proofs.Registry.Anew

namespace AppBuild.Registry

/-! ### Questions along a history -/

/-- The tag that an event asks for, if it asks for one. -/
def Event.asks? : Event → Option String
  | .resolve tag => some tag
  | _ => none

/-- The tags asked for since the last configuration or invalidation, the last one first. -/
def askedSince (history : List Event) : List String :=
  (history.reverse.takeWhile (·.asks?.isSome)).filterMap Event.asks?

/-- Does the event ask, while there are matchers, for a tag that was not asked for since they
came? -/
def isFresh (history : List Event) : Event → Bool
  | .resolve tag => (new.run history).hasAny && !(askedSince history).contains tag
  | _ => false

/-- The number of places in a history at which there is such a question. -/
def freshCount (history : List Event) : Nat :=
  (List.range history.length).countP fun i => history[i]?.any (isFresh (history.take i))

theorem askedSince_concat (history : List Event) (e : Event) :
    askedSince (history ++ [e]) =
      match e.asks? with
      | some tag => tag :: askedSince history
      | none => [] := by
  unfold askedSince
  rw [List.reverse_append, List.reverse_singleton, List.singleton_append, List.takeWhile_cons]
  cases hasks : e.asks? <;> simp [hasks]

theorem freshCount_concat (history : List Event) (e : Event) :
    freshCount (history ++ [e]) = freshCount history + (isFresh history e).toNat := by
  have hbefore : ∀ i ∈ List.range history.length,
      ((history ++ [e])[i]?.any (isFresh ((history ++ [e]).take i)) = true ↔
        history[i]?.any (isFresh (history.take i)) = true) := by
    intro i hi
    have hlt := List.mem_range.mp hi
    rw [List.getElem?_append_left hlt, List.take_append_of_le_length (Nat.le_of_lt hlt)]
  unfold freshCount
  rw [List.length_append, List.length_singleton, List.range_succ, List.countP_append,
    List.countP_congr hbefore]
  congr 1
  rw [List.countP_singleton, List.getElem?_concat_length, List.take_left, Option.any_some]
  cases isFresh history e <;> rfl

/-! ### What is remembered -/

/-- Is a path or a miss remembered for the tag? -/
def remembers (r : Registry) (tag : String) : Bool :=
  (r.resolved.get? tag).isSome || r.unresolved.contains tag

theorem remembers_of_forgotten {r : Registry} (hhit : r.resolved = .empty)
    (hmiss : r.unresolved = []) (tag : String) : r.remembers tag = false := by
  unfold remembers
  rw [hhit, hmiss]
  rfl

section

variable {r s : Registry} {tag : String} {a : Option String}

/-- While there are matchers, a tag that is asked for is remembered from then on. -/
theorem Asked.remembers_eq (h : Asked r tag a s) (other : String) :
    s.remembers other = (r.remembers other || r.hasAny && other == tag) := by
  unfold remembers
  cases h with
  | idle hany => simp [hany]
  | hit hany hpath =>
      by_cases hsame : other = tag
      · simp [hsame, hpath]
      · simp [hsame]
  | miss hany hnone hmem =>
      by_cases hsame : other = tag
      · simp [hsame, hmem]
      · simp [hsame]
  | lost hany hnone hmem hfind =>
      by_cases hsame : other = tag
      · simp [hsame, hany]
      · simp [hsame]
  | found hany hnone hmem hfind =>
      rw [OrderedMap.get?_insert]
      by_cases hsame : other = tag
      · simp [hsame, hany]
      · simp [hsame]

/-- The matchers are gone through for a tag that is not remembered, and for no other. -/
theorem Asked.lookups_eq (h : Asked r tag a s) :
    s.lookups = r.lookups + (r.hasAny && !r.remembers tag).toNat := by
  unfold remembers
  cases h with
  | idle hany => simp [hany]
  | hit hany hpath => simp [hpath]
  | miss hany hnone hmem => simp [hmem]
  | lost hany hnone hmem hfind => simp [hany, hnone, hmem]
  | found hany hnone hmem hfind => simp [hany, hnone, hmem]

theorem Asked.hasAny_eq (h : Asked r tag a s) : s.hasAny = r.hasAny := by
  cases h <;> rfl

/-- What is remembered is answered from memory: other matchers would make no difference. -/
theorem resolve_of_remembers (h : r.hasAny = true → r.remembers tag = true)
    (others : List Matcher) :
    ({ r with matchers := others } : Registry).resolve tag =
      ((r.resolve tag).1, { r with matchers := others }) := by
  unfold resolve
  cases hany : r.hasAny with
  | false => rfl
  | true =>
      have hremembers := h hany
      unfold remembers at hremembers
      cases hpath : r.resolved.get? tag with
      | some path => simp
      | none =>
          have hmem : r.unresolved.contains tag = true := by simpa [hpath] using hremembers
          simp only [Bool.not_true, Bool.false_eq_true, if_false, hmem, if_true]

end

/-! ### Along a history -/

/-- The registry after one event more. -/
theorem run_concat (r : Registry) (history : List Event) (e : Event) :
    r.run (history ++ [e]) = (r.run history).after e :=
  run_append r history [e]

/-- **The memories hold the tags that were asked for since the registry got its matchers.** -/
theorem remembers_run (history : List Event) (tag : String) :
    (new.run history).remembers tag =
      ((new.run history).hasAny && (askedSince history).contains tag) := by
  -- The last event opens a new round or belongs to the one at hand.
  induction history using List.reverseRecOn with
  | nil => rfl
  | append_singleton history e ih =>
      rw [run_concat, askedSince_concat]
      cases e with
      | configure d c =>
          obtain ⟨hhit, hmiss⟩ := (new.run history).configure_forgets d c
          show ((new.run history).configure d c).registry.remembers tag = _
          rw [remembers_of_forgotten hhit hmiss]
          simp [Event.asks?]
      | invalidate =>
          show (new.run history).invalidate.remembers tag = _
          rw [remembers_of_forgotten rfl rfl]
          simp [Event.asks?]
      | resolve asked =>
          show ((new.run history).resolve asked).2.remembers tag
            = (((new.run history).resolve asked).2.hasAny &&
                (asked :: askedSince history).contains tag)
          have hasked := (new.run history).asked_resolve asked
          rw [hasked.remembers_eq, ih, hasked.hasAny_eq, List.contains_cons]
          cases (new.run history).hasAny <;> simp [Bool.or_comm]

theorem lookups_configure (r : Registry) (d : Disk) (c : ScanConfig) :
    (r.configure d c).registry.lookups = r.lookups := by
  unfold configure
  rcases plan d c with ⟨outcome, warnings⟩
  cases outcome <;> rfl

/-- **A fresh question adds one to the count, and nothing else does.** -/
theorem lookups_after (history : List Event) (e : Event) :
    ((new.run history).after e).lookups =
      (new.run history).lookups + (isFresh history e).toNat := by
  cases e with
  | configure d c => exact lookups_configure _ d c
  | invalidate => rfl
  | resolve tag =>
      show ((new.run history).resolve tag).2.lookups = _
      rw [((new.run history).asked_resolve tag).lookups_eq, remembers_run, isFresh]
      cases (new.run history).hasAny <;> rfl

theorem lookups_eq_freshCount (history : List Event) :
    (new.run history).lookups = freshCount history := by
  induction history using List.reverseRecOn with
  | nil => rfl
  | append_singleton history e ih =>
      rw [run_concat, lookups_after, freshCount_concat, ih]

/-- The count never goes down. -/
theorem lookups_le_run (history later : List Event) :
    (new.run history).lookups ≤ (new.run (history ++ later)).lookups := by
  induction later using List.reverseRecOn with
  | nil => rw [List.append_nil]
  | append_singleton later e ih =>
      rw [← List.append_assoc, run_concat, lookups_after]
      exact Nat.le_add_right_of_le ih

/--
**Each tag is looked up once.**  After any history, with the file system changing as it
may, the count of lookups is the number of questions that were asked while there were
matchers and for a tag not asked for since the last configuration or invalidation.  It
never goes down, and configurations, whether they fail or not, and invalidations leave it
as it is.  A tag that was asked for since is answered without the matchers: whichever
stood there, the answer would be the same and the registry left as it was.
-/
theorem lookups_run (history : List Event) :
    (new.run history).lookups = freshCount history ∧
    (∀ later, (new.run history).lookups ≤ (new.run (history ++ later)).lookups) ∧
    (∀ d c, (new.run (history ++ [.configure d c])).lookups = (new.run history).lookups) ∧
    (new.run (history ++ [.invalidate])).lookups = (new.run history).lookups ∧
    ∀ tag ∈ askedSince history, ∀ others : List Matcher,
      ({ new.run history with matchers := others } : Registry).resolve tag =
        (((new.run history).resolve tag).1, { new.run history with matchers := others }) := by
  refine ⟨lookups_eq_freshCount history, lookups_le_run history, fun d c => ?_, ?_,
    fun tag htag others => ?_⟩
  · rw [run_concat]
    exact lookups_configure _ d c
  · rw [run_concat]
    rfl
  · refine resolve_of_remembers (fun hany => ?_) others
    rw [remembers_run, hany, List.contains_iff_mem.mpr htag]
    rfl

/-! ### A path and a miss, asked for again -/

/-- A component and a tag that is none, after a configuration that succeeded. -/
def answeredQuestions : List Event :=
  [.configure nestedDisk nestedConfig, .resolve "AFoo", .resolve "view"]

theorem lookups_answered : (new.run answeredQuestions).lookups = 2 := by
  show (((new.configure nestedDisk nestedConfig).registry.resolve "AFoo").2.resolve
    "view").2.lookups = 2
  unfold configure
  rw [plan_of_scan scanDirs_nested]
  decide +kernel

/-- The miss is as good a memory as the path, and the count outlasts a configuration that fails. -/
theorem repeated_questions_free :
    ["view", "AFoo"] = askedSince answeredQuestions ∧
    freshCount answeredQuestions = 2 ∧
    (∀ others : List Matcher,
      ({ new.run answeredQuestions with matchers := others } : Registry).resolve "view" =
        (((new.run answeredQuestions).resolve "view").1,
          { new.run answeredQuestions with matchers := others })) ∧
    (new.run (answeredQuestions ++ [.configure nestedDisk unclosedConfig])).lookups = 2 := by
  obtain ⟨hcount, -, hconfigure, -, hrepeated⟩ := lookups_run answeredQuestions
  refine ⟨by decide, ?_, hrepeated "view" (by decide), ?_⟩
  · rw [← hcount, lookups_answered]
  · rw [hconfigure, lookups_answered]

end AppBuild.Registry
