/-
What an obfuscator changes in a bundle, and what it leaves alone.

A bundle is seen through two things only, finding a chunk and modifying one, and all that
is needed of them is that a modification is found under its key and nowhere else
(`LawfulBundle`).  There are four ways through `Obfuscator.apply` (`Applied`): in two of
them nothing happens, and in the others the chunks that the outcome names are changed,
the shared one first.  The service chunk has another key, so what is done to it does not
depend on what was done to the shared chunk before.

Everything else stays: the keys in their order, the names of the chunks, and the codes
under all other keys.  This is said of both kinds of maps at once (`Rewritten`).  A hash
map has an order too, that of its buckets, and modifying a value keeps it
(`HashMap.keys_modify`).
-/
import Mathlib
import AppBuild.Bundle.Obfuscator

namespace AppBuild

/-! ### The order of a hash map -/

section

open Std.DHashMap.Internal

variable {α β : Type}

/-- Replacing an element by one that comes to the same changes nothing. -/
theorem flatMap_set_of_eq {g : α → List β} {l : List α} {i : Nat} (hi : i < l.length) {x : α}
    (h : g x = g l[i]) : (l.set i x).flatMap g = l.flatMap g := by
  have hmap : (l.set i x).map g = l.map g := by
    have hlen : i < (l.map g).length := by rwa [List.length_map]
    have hget : (l.map g)[i] = g l[i] := List.getElem_map g
    rw [List.map_set, h, ← hget, List.set_getElem_self]
  rw [List.flatMap_def, hmap, ← List.flatMap_def]

variable [BEq α] [LawfulBEq α]

/-- In its bucket a modified value keeps its place. -/
theorem keys_modify_bucket (k : α) (f : β → β) (bucket : AssocList α fun _ => β) :
    (AssocList.Const.modify k f bucket).toList.map Sigma.fst = bucket.toList.map Sigma.fst := by
  induction bucket with
  | nil => rfl
  | cons j v bucket ih =>
      unfold AssocList.Const.modify
      by_cases h : j = k
      · simp [h]
      · simp [h, ih]

/-- Modifying a value of a hash map leaves the keys in their order. -/
theorem HashMap.keys_modify [Hashable α] (m : Std.HashMap α β) (k : α) (f : β → β) :
    (m.modify k f).keys = m.keys := by
  obtain ⟨⟨⟨size, buckets⟩, hwf⟩⟩ := m
  show Std.DHashMap.Raw.keys (Raw₀.Const.modify ⟨⟨size, buckets⟩, _⟩ k f).1 =
    Std.DHashMap.Raw.keys ⟨size, buckets⟩
  rw [Raw.keys_eq_keys_toListModel, Raw.keys_eq_keys_toListModel]
  unfold Raw₀.Const.modify
  simp only
  split
  · simp only [Array.uset, Std.Internal.List.keys_eq_map, toListModel, List.map_flatMap,
      Array.toList_set, List.set_set]
    exact flatMap_set_of_eq _ (keys_modify_bucket k f _)
  · rfl

end

/-! ### Bundles -/

/-- A modification is found under its key, and under no other. -/
class LawfulBundle (β : Type) [Bundle β] : Prop where
  find?_modify (bundle : β) (key other : String) (f : Chunk → Chunk) :
    Bundle.find? (Bundle.modify bundle key f) other =
      if other = key then (Bundle.find? bundle other).map f else Bundle.find? bundle other

instance : LawfulBundle (OrderedMap String Chunk) where
  find?_modify := OrderedMap.get?_modify

instance : LawfulBundle (Std.HashMap String Chunk) where
  find?_modify m key other f := by
    show (m.modify key f)[other]? = if other = key then m[other]?.map f else m[other]?
    rw [Std.HashMap.getElem?_modify]
    by_cases h : key = other
    · subst h
      simp
    · simp [h, Ne.symm h]

namespace Obfuscation

/-- The code that a chunk has after the changes that an outcome names, by its key and the code it
had. -/
def codeAt (out : Obfuscation) (key code : String) : String :=
  if out.shared ∧ key = Chunk.sharedKey then Chunk.wrapShared code
  else if out.service ∧ key = Chunk.serviceKey then Chunk.routeService code
  else code

end Obfuscation

namespace Obfuscator

open AppBuild.Bundle (find? modify)

variable {β : Type} [Bundle β]

/-- The bundle with its shared chunk wrapped. -/
def withShared (bundle : β) : β :=
  modify bundle Chunk.sharedKey fun c => { c with code := Chunk.wrapShared c.code }

/-- The bundle with its service chunk sent to the shared one. -/
def withService (bundle : β) : β :=
  modify bundle Chunk.serviceKey fun c => { c with code := Chunk.routeService c.code }

/-! ### The ways through -/

/-- Applying an obfuscator to a bundle has this outcome and leaves this bundle. -/
inductive Applied (o : Obfuscator) (bundle : β) : Obfuscation → β → Prop
  | disabled (hoff : o.enabled = false) : Applied o bundle ⟨false, false⟩ bundle
  /-- There is no shared chunk, so the service chunk is not looked for. -/
  | unshared (hon : o.enabled = true) (hshared : find? bundle Chunk.sharedKey = none) :
      Applied o bundle ⟨false, false⟩ bundle
  | sharedOnly (hon : o.enabled = true) (hshared : (find? bundle Chunk.sharedKey).isSome = true)
      (hservice : find? bundle Chunk.serviceKey = none) :
      Applied o bundle ⟨true, false⟩ (withShared bundle)
  | both (hon : o.enabled = true) (hshared : (find? bundle Chunk.sharedKey).isSome = true)
      (hservice : (find? bundle Chunk.serviceKey).isSome = true) :
      Applied o bundle ⟨true, true⟩ (withService (withShared bundle))

namespace Applied

variable {o : Obfuscator} {bundle result : β} {out : Obfuscation}

theorem outcome_eq (h : Applied o bundle out result) :
    out = ⟨o.enabled && (find? bundle Chunk.sharedKey).isSome,
      o.enabled && (find? bundle Chunk.sharedKey).isSome &&
        (find? bundle Chunk.serviceKey).isSome⟩ := by
  cases h with
  | disabled hoff => simp [hoff]
  | unshared hon hshared => simp [hshared]
  | sharedOnly hon hshared hservice => simp [hon, hshared, hservice]
  | both hon hshared hservice => simp [hon, hshared, hservice]

/-- What no modification changes is not changed. -/
theorem view_eq (h : Applied o bundle out result) {α : Type} {view : β → α}
    (hview : ∀ bundle key f, view (modify bundle key f) = view bundle) :
    view result = view bundle := by
  cases h with
  | disabled => rfl
  | unshared => rfl
  | sharedOnly => exact hview _ _ _
  | both => exact (hview _ _ _).trans (hview _ _ _)

end Applied

/-! ### What is found afterwards -/

variable [LawfulBundle β]

theorem serviceKey_ne_sharedKey : Chunk.serviceKey ≠ Chunk.sharedKey := by decide

/-- Wrapping the shared chunk does not touch the service chunk. -/
theorem find?_service_withShared (bundle : β) :
    find? (withShared bundle) Chunk.serviceKey = find? bundle Chunk.serviceKey := by
  unfold withShared
  rw [LawfulBundle.find?_modify, if_neg serviceKey_ne_sharedKey]

theorem applied_apply (o : Obfuscator) (bundle : β) :
    Applied o bundle (o.apply bundle).1 (o.apply bundle).2 := by
  cases hon : o.enabled with
  | false =>
      have happly : o.apply bundle = (⟨false, false⟩, bundle) := by
        unfold apply
        rw [hon]
        rfl
      rw [happly]
      exact .disabled hon
  | true =>
      cases hshared : find? bundle Chunk.sharedKey with
      | none =>
          have happly : o.apply bundle = (⟨false, false⟩, bundle) := by
            unfold apply
            simp only [hon, hshared, Bool.not_true, Bool.false_eq_true, if_false]
          rw [happly]
          exact .unshared hon hshared
      | some shared =>
          have hthere : (find? bundle Chunk.sharedKey).isSome = true := by rw [hshared]; rfl
          have hsame := find?_service_withShared bundle
          cases hservice : find? bundle Chunk.serviceKey with
          | none =>
              have happly : o.apply bundle = (⟨true, false⟩, withShared bundle) := by
                rw [hservice, withShared] at hsame
                unfold apply
                simp only [hon, hshared, hsame, Bool.not_true, Bool.false_eq_true, if_false]
                rfl
              rw [happly]
              exact .sharedOnly hon hthere hservice
          | some service =>
              have happly : o.apply bundle = (⟨true, true⟩, withService (withShared bundle)) := by
                rw [hservice, withShared] at hsame
                unfold apply
                simp only [hon, hshared, hsame, Bool.not_true, Bool.false_eq_true, if_false]
                rfl
              rw [happly]
              exact .both hon hthere (by rw [hservice]; rfl)

/-- Every chunk is found as it was, but for its code. -/
theorem Applied.find?_eq {o : Obfuscator} {bundle result : β} {out : Obfuscation}
    (h : Applied o bundle out result) (key : String) :
    find? result key = (find? bundle key).map fun c => { c with code := out.codeAt key c.code } := by
  have hsame : ∀ found : Option Chunk, found = found.map fun c =>
      { c with code := (⟨false, false⟩ : Obfuscation).codeAt key c.code } := by
    intro found
    cases found <;> rfl
  cases h with
  | disabled => exact hsame _
  | unshared => exact hsame _
  | sharedOnly =>
      unfold withShared
      rw [LawfulBundle.find?_modify]
      by_cases hkey : key = Chunk.sharedKey <;> simp [Obfuscation.codeAt, hkey]
  | both =>
      unfold withService
      rw [LawfulBundle.find?_modify]
      by_cases hservice : key = Chunk.serviceKey
      · rw [if_pos hservice, hservice, find?_service_withShared]
        simp [Obfuscation.codeAt, serviceKey_ne_sharedKey]
      · rw [if_neg hservice]
        unfold withShared
        rw [LawfulBundle.find?_modify]
        by_cases hshared : key = Chunk.sharedKey <;> simp [Obfuscation.codeAt, hservice, hshared]

/-- Bundles in which the same is found are changed alike, of whatever kind they are. -/
theorem apply_alike {γ : Type} [Bundle γ] [LawfulBundle γ] (o : Obfuscator) {bundle : β}
    {bundle' : γ} (h : ∀ key, find? bundle key = find? bundle' key) :
    (o.apply bundle).1 = (o.apply bundle').1 ∧
      ∀ key, find? (o.apply bundle).2 key = find? (o.apply bundle').2 key := by
  have hout : (o.apply bundle).1 = (o.apply bundle').1 := by
    rw [(o.applied_apply bundle).outcome_eq, (o.applied_apply bundle').outcome_eq, h, h]
  refine ⟨hout, fun key => ?_⟩
  rw [(o.applied_apply bundle).find?_eq, (o.applied_apply bundle').find?_eq, h, hout]

/-! ### Both kinds of maps -/

/-- What becomes of a bundle whose keys are listed. -/
structure Rewritten (keys : β → List String) (o : Obfuscator) (bundle : β) (out : Obfuscation)
    (result : β) : Prop where
  /-- The shared chunk is changed if it is there and the obfuscator is enabled. -/
  shared : out.shared = (o.enabled && (find? bundle Chunk.sharedKey).isSome)
  /-- The service chunk is changed if it is there, but never without the shared one. -/
  service : out.service = (out.shared && (find? bundle Chunk.serviceKey).isSome)
  /-- The keys and their order stay. -/
  keys : keys result = keys bundle
  /-- Every chunk keeps its name, and its code as well if the outcome does not name it. -/
  find : ∀ key, find? result key =
    (find? bundle key).map fun c => { c with code := out.codeAt key c.code }

theorem rewritten_apply {keys : β → List String}
    (hkeys : ∀ bundle key f, keys (modify bundle key f) = keys bundle) (o : Obfuscator)
    (bundle : β) : Rewritten keys o bundle (o.apply bundle).1 (o.apply bundle).2 where
  shared := by rw [(o.applied_apply bundle).outcome_eq]
  service := by rw [(o.applied_apply bundle).outcome_eq]
  keys := (o.applied_apply bundle).view_eq hkeys
  find := (o.applied_apply bundle).find?_eq

/--
**What an obfuscator does to a bundle.**  Of an ordered map and of a hash map alike the
keys stay in their order, every chunk keeps its name, and the codes change that the
outcome names and no others.  The shared chunk is wrapped if the obfuscator is enabled
and it is there; only then is the service chunk looked for, and redirected if it is
there.  An ordered map and a hash map in which the same is found have the same outcome,
and the same is found in them afterwards.
-/
theorem apply_rewrites (o : Obfuscator) (ordered : OrderedMap String Chunk)
    (hashed : Std.HashMap String Chunk) :
    Rewritten OrderedMap.keys o ordered (o.apply ordered).1 (o.apply ordered).2 ∧
    Rewritten Std.HashMap.keys o hashed (o.apply hashed).1 (o.apply hashed).2 ∧
    ((∀ key, find? ordered key = find? hashed key) →
      (o.apply ordered).1 = (o.apply hashed).1 ∧
        ∀ key, find? (o.apply ordered).2 key = find? (o.apply hashed).2 key) :=
  ⟨rewritten_apply OrderedMap.keys_modify o ordered,
    rewritten_apply HashMap.keys_modify o hashed, fun h => o.apply_alike h⟩

/-- In a hash map of the same entries the same is found. -/
theorem find?_ofList_entries (ordered : OrderedMap String Chunk) (key : String) :
    find? ordered key = find? (Std.HashMap.ofList ordered.entries) key := by
  show ordered.entries.lookup key = (Std.HashMap.ofList ordered.entries)[key]?
  have hdistinct : ordered.entries.Pairwise fun a b => (a.1 == b.1) = false := by
    simpa [List.Nodup, List.pairwise_map] using ordered.distinct
  cases hfound : ordered.entries.lookup key with
  | none =>
      rw [List.lookup_eq_none_iff] at hfound
      refine (Std.HashMap.getElem?_ofList_of_contains_eq_false ?_).symm
      rw [← Bool.not_eq_true, List.contains_iff_mem, List.mem_map]
      rintro ⟨e, he, rfl⟩
      exact absurd (hfound e he) (by simp)
  | some c =>
      obtain ⟨before, after, hentries, -⟩ := List.lookup_eq_some_iff.mp hfound
      exact (Std.HashMap.getElem?_ofList_of_mem (beq_self_eq_true key) hdistinct
        (by rw [hentries]; simp)).symm

/-! ### Keys that are not names -/

/-- A bundle whose service chunk comes first, and whose chunks are named otherwise than filed. -/
def sampleBundle : OrderedMap String Chunk :=
  ⟨[("app-service.js", ⟨"app-confusion.js", "require('./app-confusion.js')"⟩),
      ("app.css", ⟨"app-service.js", "require('vue')"⟩),
      ("app-confusion.js", ⟨"secret", ""⟩)], by decide⟩

/-- The keys decide and not the names, and a hash map of the same chunks has the same outcome. -/
theorem sampleBundle_rewritten :
    (∀ key, find? sampleBundle key = find? (Std.HashMap.ofList sampleBundle.entries) key) ∧
    ((⟨true, []⟩ : Obfuscator).apply (Std.HashMap.ofList sampleBundle.entries)).1
      = ⟨true, true⟩ ∧
    find? ((⟨true, []⟩ : Obfuscator).apply (Std.HashMap.ofList sampleBundle.entries)).2 "app.css"
      = some ⟨"app-service.js", "require('vue')"⟩ := by
  obtain ⟨hrewritten, -, hsame⟩ := apply_rewrites ⟨true, []⟩ sampleBundle
    (Std.HashMap.ofList sampleBundle.entries)
  have hfound := find?_ofList_entries sampleBundle
  obtain ⟨hout, hfind⟩ := hsame hfound
  have houtcome : ((⟨true, []⟩ : Obfuscator).apply sampleBundle).1 = ⟨true, true⟩ := by decide
  refine ⟨hfound, hout.symm.trans houtcome, (hfind _).symm.trans ?_⟩
  rw [hrewritten.find, houtcome]
  decide

end Obfuscator
end AppBuild
