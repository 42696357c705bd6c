/-
# Keys of loaded documents

The readers of JSON and of YAML write every entry of a mapping under its key, so that a key that is written again replaces
what stood there.  In whatever is loaded from a file, therefore, no mapping has two entries under one key.

* `Json.keyed_of_read`, `Yaml.keyed_of_read`: the values of texts.
* `FileTree.keyed_of_loadDocument`: the documents in files.
-/
import ApiTypes.Files.Input
import ApiTypes.Proofs.Value.Keys

namespace ApiTypes

/-- What succeeds with its errors renamed succeeds without. -/
theorem ok_of_mapError {α ε ε' : Type} {f : ε → ε'} {result : Except ε α} {a : α} (h : result.mapError f = .ok a) :
    result = .ok a := by
  cases result with
  | error e => cases h
  | ok b =>
      cases h
      rfl

/-! ## JSON -/

namespace Json

/-- What the readers return within a bound on the depth of calls has distinct keys, if what they have so far does. -/
structure ReadersKeyed (fuel : Nat) : Prop where
  value : ∀ {s value rest}, readValue fuel s = .ok (value, rest) → value.Keyed
  array : ∀ {s value rest}, readArray fuel s = .ok (value, rest) → value.Keyed
  items : ∀ {done s value rest}, (∀ item ∈ done, item.Keyed) → readItems fuel done s = .ok (value, rest) → value.Keyed
  object : ∀ {s value rest}, readObject fuel s = .ok (value, rest) → value.Keyed
  members : ∀ {done s value rest}, (Value.mapping done).Keyed → readMembers fuel done s = .ok (value, rest) →
    value.Keyed

section Step

variable {fuel : Nat} (ih : ReadersKeyed fuel)
include ih

theorem keyed_readValue {s rest : List Char} {value : Value} (h : readValue (fuel + 1) s = .ok (value, rest)) :
    value.Keyed := by
  unfold readValue at h
  split at h
  · rename_i after
    cases htext : readText ('\x22' :: after).length [] after with
    | error fault =>
        rw [htext] at h
        cases h
    | ok read =>
        rw [htext] at h
        cases h
        exact .scalar _
  · exact ih.object h
  · exact ih.array h
  · split at h
    · cases h
      exact .scalar _
    · split at h
      · split at h
        · cases h
        · cases h
          exact .scalar _
      · cases h

theorem keyed_readArray {s rest : List Char} {value : Value} (h : readArray (fuel + 1) s = .ok (value, rest)) :
    value.Keyed := by
  unfold readArray at h
  split at h
  · cases h
    exact .list (List.forall_mem_nil _)
  · exact ih.items (List.forall_mem_nil _) h

theorem keyed_readItems {done : List Value} (hdone : ∀ item ∈ done, item.Keyed) {s rest : List Char} {value : Value}
    (h : readItems (fuel + 1) done s = .ok (value, rest)) : value.Keyed := by
  unfold readItems at h
  split at h
  · cases h
  · rename_i item after hitem
    have hall : ∀ other ∈ item :: done, other.Keyed := List.forall_mem_cons.mpr ⟨ih.value hitem, hdone⟩
    split at h
    · cases h
      refine .list ?_
      intro other hother
      exact hall other (List.mem_reverse.mp hother)
    · exact ih.items hall h
    · cases h

theorem keyed_readObject {s rest : List Char} {value : Value} (h : readObject (fuel + 1) s = .ok (value, rest)) :
    value.Keyed := by
  have hempty : (Value.mapping []).Keyed := .mapping List.Pairwise.nil (List.forall_mem_nil _)
  unfold readObject at h
  split at h
  · cases h
    exact hempty
  · exact ih.members hempty h

theorem keyed_readMembers {done : Entries} (hdone : (Value.mapping done).Keyed) {s rest : List Char} {value : Value}
    (h : readMembers (fuel + 1) done s = .ok (value, rest)) : value.Keyed := by
  unfold readMembers at h
  split at h
  · split at h
    · cases h
    · rename_i name _ _
      split at h
      · split at h
        · cases h
        · rename_i member _ hmember
          have hput := Value.keyed_put hdone (.text name) (ih.value hmember)
          extract_lets written at h
          split at h
          · cases h
            exact hput
          · exact ih.members hput h
          · cases h
      · cases h
  · cases h

end Step

theorem readersKeyed (fuel : Nat) : ReadersKeyed fuel := by
  induction fuel with
  | zero => exact ⟨nofun, nofun, nofun, nofun, nofun⟩
  | succ fuel ih =>
      exact ⟨keyed_readValue ih, keyed_readArray ih, fun hdone => keyed_readItems ih hdone, keyed_readObject ih,
        fun hdone => keyed_readMembers ih hdone⟩

/-- **JSON.**  In the value of a text the keys of every mapping are distinct. -/
theorem keyed_of_read {s : List Char} {value : Value} (h : read s = .ok value) : value.Keyed := by
  rw [read] at h
  split at h
  · rename_i found hread
    cases h
    unfold readAll at hread
    split at hread
    · cases hread
    · split at hread
      · cases hread
      · rename_i hvalue
        split at hread
        · cases hread
          exact (readersKeyed _).value hvalue
        · cases hread
  · cases h

end Json

/-! ## YAML -/

namespace Yaml

/-- What is built, if anything is, has a property. -/
def Gives {α : Type} (p : α → Prop) (part : Build α) : Prop :=
  ∀ a, part = .ok a → p a

theorem gives_fault {α : Type} {p : α → Prop} (fault : Fault) : Gives p (Build.fault fault) := nofun

theorem Gives.inside {α : Type} {p : α → Prop} {part : Build α} (h : Gives p part) : Gives p part.inside := by
  intro a ha
  cases part with
  | error e => cases ha
  | ok b => exact h a ha

theorem Gives.map {α β : Type} {p : α → Prop} {q : β → Prop} {part : Build α} (h : Gives p part) {f : α → β}
    (hf : ∀ a, p a → q (f a)) : Gives q (part.map f) := by
  intro b hb
  cases part with
  | error e => cases hb
  | ok a =>
      cases hb
      exact hf a (h a rfl)

theorem Gives.both {α β γ : Type} {p : α → Prop} {q : β → Prop} {r : γ → Prop} {first : Build α} {second : Build β}
    (h : Gives p first) (h' : Gives q second) {join : α → β → γ} (hjoin : ∀ a b, p a → q b → r (join a b)) :
    Gives r (Build.both join first second) := by
  intro c hc
  cases first with
  | error e => cases second <;> cases hc
  | ok a =>
      cases second with
      | error e => cases hc
      | ok b =>
          cases hc
          exact hjoin a b (h a rfl) (h' b rfl)

/-- The values of all entries have distinct keys. -/
def KeyedInside (entries : Entries) : Prop :=
  ∀ entry ∈ entries, entry.2.Keyed

theorem keyedInside_append {first second : Entries} (h : KeyedInside first) (h' : KeyedInside second) :
    KeyedInside (first ++ second) := by
  intro entry hentry
  rcases List.mem_append.mp hentry with hfirst | hsecond
  · exact h entry hfirst
  · exact h' entry hsecond

/-- Entries that are written in order make a mapping with distinct keys. -/
theorem keyed_enterAll {pairs : Entries} (h : KeyedInside pairs) : (Value.mapping (enterAll pairs)).Keyed := by
  have hfold : ∀ entries : Entries, (Value.mapping entries).Keyed →
      (Value.mapping (pairs.foldl (fun entries pair => Value.put pair.1 pair.2 entries) entries)).Keyed := by
    induction pairs with
    | nil =>
        intro entries hentries
        exact hentries
    | cons pair rest ih =>
        intro entries hentries
        obtain ⟨hpair, hrest⟩ := List.forall_mem_cons.mp h
        exact ih hrest (Value.put pair.1 pair.2 entries) (Value.keyed_put hentries pair.1 hpair)
  exact hfold [] (.mapping List.Pairwise.nil (List.forall_mem_nil _))

theorem gives_datum (part : Build Scalar) : Gives Value.Keyed (part.map Value.scalar) := by
  have hany : Gives (fun _ => True) part := fun _ _ => trivial
  exact hany.map fun s _ => .scalar s

mutual

/-- **The value of a node** has distinct keys. -/
theorem gives_buildAs (tag : Tag) : (node : Node) → Gives Value.Keyed (buildAs tag node)
  | .scalar _ text => by
      rw [buildAs]
      exact gives_datum _
  | .sequence _ items => by
      unfold buildAs
      split
      · exact (gives_buildItems items).inside.map fun values hvalues => .list hvalues
      · exact (gives_buildPairs items).inside.map fun values hvalues => .list hvalues
      · exact (gives_fault _).inside
      · exact (gives_fault _).inside
      · exact gives_fault _
  | .mapping _ entries => by
      have hmerged : Gives KeyedInside (match mergeFault entries with
          | some fault => Build.fault fault
          | none => Build.both (· ++ ·) (buildMerged entries) (buildOwn entries)) := by
        split
        · exact gives_fault _
        · exact (gives_buildMerged entries).both (gives_buildOwn entries) fun _ _ => keyedInside_append
      unfold buildAs
      extract_lets merged
      change Gives KeyedInside merged at hmerged
      split
      · exact hmerged.inside.map fun _ => keyed_enterAll
      · exact hmerged.inside.map fun _ _ => .set _
      · exact (gives_fault _).inside
      · exact (gives_fault _).inside
      · split
        · exact gives_datum _
        · exact gives_fault _

/-- The same for the items of a sequence. -/
theorem gives_buildItems : (items : List Node) → Gives (fun values => ∀ value ∈ values, value.Keyed) (buildItems items)
  | [] => by
      rw [buildItems]
      intro values hvalues
      cases hvalues
      exact nofun
  | item :: rest => by
      rw [buildItems]
      exact (gives_buildAs item.tag item).both (gives_buildItems rest) fun _ _ hvalue hvalues =>
        List.forall_mem_cons.mpr ⟨hvalue, hvalues⟩

/-- The same for pairs. -/
theorem gives_buildPairs : (items : List Node) → Gives (fun values => ∀ value ∈ values, value.Keyed) (buildPairs items)
  | [] => by
      rw [buildPairs]
      intro values hvalues
      cases hvalues
      exact nofun
  | item :: rest => by
      rw [buildPairs]
      exact (gives_buildPair item).both (gives_buildPairs rest) fun _ _ hfirst hothers =>
        List.forall_mem_cons.mpr ⟨hfirst, hothers⟩

/-- The same for a pair. -/
theorem gives_buildPair : (item : Node) → Gives Value.Keyed (buildPair item)
  | .mapping _ [(key, value)] => by
      rw [buildPair]
      refine (gives_buildAs key.tag key).both (gives_buildAs value.tag value) fun _ _ hkey hvalue => .list ?_
      exact List.forall_mem_cons.mpr ⟨hkey, List.forall_mem_singleton.mpr hvalue⟩
  | .scalar _ _ | .sequence _ _ | .mapping _ [] | .mapping _ (_ :: _ :: _) => by simp [buildPair, gives_fault]

/-- The same for the entries that a mapping has of its own. -/
theorem gives_buildOwn : (entries : List (Node × Node)) → Gives KeyedInside (buildOwn entries)
  | [] => by
      rw [buildOwn]
      intro pairs hpairs
      cases hpairs
      exact nofun
  | (key, value) :: rest => by
      have hkey : Gives (fun _ => True) (asKey (buildAs (keyTag key.tag) key)) := fun _ _ => trivial
      have hpair : Gives (fun pair : Scalar × Value => pair.2.Keyed)
          (Build.both Prod.mk (asKey (buildAs (keyTag key.tag) key)) (buildAs value.tag value)) :=
        hkey.both (gives_buildAs value.tag value) fun _ _ _ hvalue => hvalue
      rw [buildOwn]
      split
      · exact gives_buildOwn rest
      · exact hpair.both (gives_buildOwn rest) fun _ _ hfirst hothers => List.forall_mem_cons.mpr ⟨hfirst, hothers⟩

/-- The same for the entries that are merged into a mapping. -/
theorem gives_buildMerged : (entries : List (Node × Node)) → Gives KeyedInside (buildMerged entries)
  | [] => by
      rw [buildMerged]
      intro pairs hpairs
      cases hpairs
      exact nofun
  | (key, value) :: rest => by
      rw [buildMerged]
      split
      · exact (gives_buildMergedAt value).both (gives_buildMerged rest) fun _ _ => keyedInside_append
      · exact gives_buildMerged rest

/-- The same for a node that is merged. -/
theorem gives_buildMergedAt : (node : Node) → Gives KeyedInside (buildMergedAt node)
  | .scalar tag text => by
      rw [buildMergedAt]
      exact gives_fault _
  | .sequence tag items => by
      rw [buildMergedAt]
      exact gives_buildMergedIn items
  | .mapping tag entries => by
      rw [buildMergedAt]
      exact (gives_buildMerged entries).both (gives_buildOwn entries) fun _ _ => keyedInside_append

/-- The same for nodes that are merged one after the other. -/
theorem gives_buildMergedIn : (items : List Node) → Gives KeyedInside (buildMergedIn items)
  | [] => by
      rw [buildMergedIn]
      intro pairs hpairs
      cases hpairs
      exact nofun
  | item :: rest => by
      rw [buildMergedIn]
      exact (gives_buildMergedIn rest).both (gives_buildMergedAt item) fun _ _ => keyedInside_append

end

/-- **YAML.**  In the value of a text the keys of every mapping are distinct. -/
theorem keyed_of_read {s : List Char} {value : Value} (h : read s = .ok value) : value.Keyed := by
  rw [read] at h
  split at h
  · cases h
  · cases h
    exact .scalar _
  · exact gives_buildAs _ _ _ (ok_of_mapError h)

/-- The same for the content of a file. -/
theorem keyed_of_readFile {content : List UInt8} {value : Value} (h : readFile content = .ok value) : value.Keyed := by
  rw [readFile] at h
  split at h
  · cases h
  · exact keyed_of_read (ok_of_mapError h)

end Yaml

/-! ## Files -/

/-- **Loaded documents.**  In a document that is loaded from a file the keys of every mapping are distinct. -/
theorem FileTree.keyed_of_loadDocument {tree : FileTree} {path : Path} {entries : Entries}
    (h : tree.loadDocument path = .ok entries) : (Value.mapping entries).Keyed := by
  have hcontent : ∀ {content value}, Libraries.standard.readContent path content = .ok value → value.Keyed := by
    intro content value hread
    unfold Libraries.readContent at hread
    split at hread
    · exact Yaml.keyed_of_readFile (ok_of_mapError hread)
    · split at hread
      · cases hread
      · exact Json.keyed_of_read (ok_of_mapError hread)
  unfold loadDocument loadWith at h
  split at h
  · cases h
  · split at h
    · cases h
    · rename_i hread
      cases h
      exact hcontent hread
    · cases h

end ApiTypes
