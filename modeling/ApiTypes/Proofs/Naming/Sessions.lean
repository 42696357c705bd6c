/-
# Sessions of a registry

A registry is used by calls in any order: a name is reserved, a candidate is claimed, or the declarations of operations are
named.  Each call leaves events behind, one for every name that it reserves or hands out.

What holds of the events between two states of the registry (`History`) is shown for single calls and put together for
sessions of any length.

* `Registry.spelled`: the spellings of a candidate by number, the candidate itself being number zero.
* `Registry.History.trans`: two histories one after the other.
* `Registry.history_run`: every session makes a history.
* `Registry.run_laws`: the laws of a session that starts with no names.
-/
import ApiTypes.Proofs.Naming.Requests
import Mathlib.Algebra.GroupWithZero.Nat
import Mathlib.Data.List.Basic

namespace ApiTypes

namespace Registry

/-! ## Calls and events -/

/-- A use of a registry.  What is generated is generated for the operations of some document. -/
inductive Call
  | reserve (name : String)
  | claim (candidate : String)
  | generate (qualifier : String) (operations : List Operation)

/-- What became of a name: it was reserved, or handed out for a candidate. -/
inductive Event
  | reserved (name : String)
  | handedOut (candidate name : String)
  deriving DecidableEq

namespace Event

/-- The name that was reserved or handed out. -/
def name : Event → String
  | reserved name => name
  | handedOut _ name => name

/-- The name, if it was handed out. -/
def given? : Event → Option String
  | reserved _ => none
  | handedOut _ name => some name

/-- The name, if it was handed out for the candidate. -/
def givenFor? (candidate : String) : Event → Option String
  | reserved _ => none
  | handedOut other name => if other = candidate then some name else none

theorem name_of_given {event : Event} {name : String} (h : event.given? = some name) : event.name = name := by
  cases event with
  | reserved => cases h
  | handedOut => exact Option.some.inj h

/-- The names of events are those that were reserved and those that were handed out. -/
theorem mem_names {events : List Event} {name : String} :
    name ∈ events.map Event.name ↔ .reserved name ∈ events ∨ name ∈ events.filterMap given? := by
  rw [List.mem_map, List.mem_filterMap]
  constructor
  · rintro ⟨event, hevent, rfl⟩
    cases event with
    | reserved => exact .inl hevent
    | handedOut candidate name => exact .inr ⟨.handedOut candidate name, hevent, rfl⟩
  · rintro (hreserved | ⟨event, hevent, hgiven⟩)
    · exact ⟨.reserved name, hreserved, rfl⟩
    · exact ⟨event, hevent, name_of_given hgiven⟩

end Event

/-- The drafts of declarations got the names that the declarations have. -/
def handouts (drafts declarations : List Declaration) : List Event :=
  List.zipWith (fun draft d => .handedOut draft.name d.name) drafts declarations

/-- Does what a call asks for, and notes what became of names. -/
def perform : Call → Registry → List Event × Registry
  | .reserve name, taken => ([.reserved name], taken.reserve name)
  | .claim candidate, taken => ([.handedOut candidate (taken.claim candidate).1], (taken.claim candidate).2)
  | .generate qualifier operations, taken =>
    let (declarations, after) := Operation.requestDeclarations qualifier operations taken
    (handouts (operations.flatMap (Operation.drafts qualifier)) declarations, after)

/-- Calls one after the other. -/
def run : List Call → Registry → List Event × Registry
  | [], taken => ([], taken)
  | call :: rest, taken =>
    ((perform call taken).1 ++ (run rest (perform call taken).2).1, (run rest (perform call taken).2).2)

theorem run_append (first second : List Call) (taken : Registry) :
    run (first ++ second) taken =
      ((run first taken).1 ++ (run second (run first taken).2).1, (run second (run first taken).2).2) := by
  induction first generalizing taken with
  | nil => rfl
  | cons call rest ih => simp [run, ih]

/-- The names that a generation notes are those of its declarations. -/
theorem filterMap_given_generate (qualifier : String) (operations : List Operation) (taken : Registry) :
    (perform (.generate qualifier operations) taken).1.filterMap Event.given? =
      (Operation.requestDeclarations qualifier operations taken).1.map Declaration.name := by
  have hdrafts : ∀ drafts : List Declaration, (handouts drafts (nameAll drafts taken).1).filterMap Event.given? =
      (nameAll drafts taken).1.map Declaration.name := by
    intro drafts
    induction drafts generalizing taken with
    | nil => rfl
    | cons draft rest ih => exact congrArg (List.cons _) (ih _)
  exact hdrafts (operations.flatMap (Operation.drafts qualifier))

/-! ## Numbered spellings -/

/-- The spelling of a candidate with a number; number zero is not written. -/
def spelled (candidate : String) (k : Nat) : String :=
  if k = 0 then candidate else numbered candidate k

/-- **Numbers.**  A candidate gets the least number whose spelling is free. -/
theorem freeName_eq_spelled (taken : Registry) (candidate : String) :
    ∃ k, taken.freeName candidate = spelled candidate k ∧ ∀ j < k, spelled candidate j ∈ taken := by
  rcases freeName_givenFor taken candidate with ⟨_, hname⟩ | ⟨htaken, k, hone, hname, _, hleast⟩
  · exact ⟨0, hname, fun j hj => absurd hj (Nat.not_lt_zero j)⟩
  · refine ⟨k, ?_, fun j hj => ?_⟩
    · rw [hname, spelled, if_neg (by omega)]
    · rcases Nat.eq_zero_or_pos j with rfl | hpos
      · exact htaken
      · rw [spelled, if_neg (by omega)]
        exact hleast j hpos hj

/-! ## Histories -/

/-- What the events between two states of the registry tell: a name that is handed out was not in use, and it was neither
reserved nor handed out before; the names in use after are those before and those of the events; and the names that are
handed out for one candidate are spelled with growing numbers. -/
structure History (before : Registry) (events : List Event) (after : Registry) : Prop where
  new : ∀ event ∈ events, ∀ name ∈ event.given?, name ∉ before
  fresh : events.Pairwise fun event later => ∀ name ∈ later.given?, event.name ≠ name
  mem_after : ∀ name, name ∈ after ↔ name ∈ before ∨ name ∈ events.map Event.name
  numbers : ∀ candidate, ∃ numbers : List Nat, numbers.Pairwise (· < ·) ∧
    events.filterMap (Event.givenFor? candidate) = numbers.map (spelled candidate) ∧
    ∀ k ∈ numbers, spelled candidate k ∉ before ∧ ∀ j ≤ k, spelled candidate j ∈ after

namespace History

/-- Nothing happened. -/
theorem refl (taken : Registry) : History taken [] taken where
  new := by simp
  fresh := List.Pairwise.nil
  mem_after := by simp
  numbers := fun _ => ⟨[], List.Pairwise.nil, rfl, by simp⟩

/-- A name was reserved. -/
theorem reserve (taken : Registry) (name : String) : History taken [.reserved name] (taken.reserve name) where
  new := by simp [Event.given?]
  fresh := List.pairwise_singleton _ _
  mem_after := by simp [Registry.reserve, Event.name, or_comm]
  numbers := fun _ => ⟨[], List.Pairwise.nil, rfl, by simp⟩

/-- A candidate was claimed. -/
theorem claim (taken : Registry) (candidate : String) :
    History taken [.handedOut candidate (taken.freeName candidate)] (taken.reserve (taken.freeName candidate)) where
  new := by simpa [Event.given?] using freeName_not_mem taken candidate
  fresh := List.pairwise_singleton _ _
  mem_after := by simp [Registry.reserve, Event.name, or_comm]
  numbers := by
    intro other
    by_cases hcandidate : candidate = other
    · subst hcandidate
      obtain ⟨k, hname, hleast⟩ := freeName_eq_spelled taken candidate
      refine ⟨[k], List.pairwise_singleton _ _, by simp [Event.givenFor?, hname], fun l hl => ?_⟩
      rw [List.mem_singleton.mp hl, ← hname]
      refine ⟨freeName_not_mem taken candidate, fun j hj => ?_⟩
      rw [Registry.reserve, NameSet.mem_insert, hname]
      rcases Nat.lt_or_eq_of_le hj with hlt | rfl
      · exact .inr (hleast j hlt)
      · exact .inl rfl
    · exact ⟨[], List.Pairwise.nil, by simp [Event.givenFor?, hcandidate], by simp⟩

/-- **Histories one after the other.** -/
theorem trans {before between after : Registry} {first second : List Event} (h : History before first between)
    (h' : History between second after) : History before (first ++ second) after := by
  have hkept : ∀ name, name ∈ before → name ∈ between := fun name hname => (h.mem_after name).mpr (.inl hname)
  have hkept' : ∀ name, name ∈ between → name ∈ after := fun name hname => (h'.mem_after name).mpr (.inl hname)
  constructor
  · intro event hevent name hname hbefore
    rcases List.mem_append.mp hevent with hfirst | hsecond
    · exact h.new event hfirst name hname hbefore
    · exact h'.new event hsecond name hname (hkept name hbefore)
  · refine List.pairwise_append.mpr ⟨h.fresh, h'.fresh, fun event hevent later hlater name hname heq => ?_⟩
    -- a name of the first history is in use when the second one begins
    exact h'.new later hlater name hname ((h.mem_after name).mpr (.inr (List.mem_map.mpr ⟨event, hevent, heq⟩)))
  · intro name
    rw [h'.mem_after, h.mem_after, List.map_append, List.mem_append, or_assoc]
  · intro candidate
    obtain ⟨numbers, hgrow, hnames, hspelled⟩ := h.numbers candidate
    obtain ⟨others, hgrow', hnames', hspelled'⟩ := h'.numbers candidate
    refine ⟨numbers ++ others, List.pairwise_append.mpr ⟨hgrow, hgrow', fun k hk l hl => ?_⟩, ?_, fun k hk => ?_⟩
    · -- the spellings up to the earlier number are in use, that of the later one is not
      by_contra hle
      exact (hspelled' l hl).1 ((hspelled k hk).2 l (by omega))
    · rw [List.filterMap_append, hnames, hnames', List.map_append]
    · rcases List.mem_append.mp hk with hfirst | hsecond
      · obtain ⟨hnew, hused⟩ := hspelled k hfirst
        exact ⟨hnew, fun j hj => hkept' _ (hused j hj)⟩
      · obtain ⟨hnew, hused⟩ := hspelled' k hsecond
        exact ⟨fun hbefore => hnew (hkept _ hbefore), hused⟩

/-- No name is handed out twice. -/
theorem nodup {before after : Registry} {events : List Event} (h : History before events after) :
    (events.filterMap Event.given?).Nodup := by
  refine List.pairwise_filterMap.mpr (h.fresh.imp fun hfresh name hname later hlater heq => ?_)
  apply hfresh later hlater
  rw [Event.name_of_given hname, heq]

/-- No name is handed out that was reserved before. -/
theorem not_reserved {before after : Registry} {first rest : List Event} {candidate name : String}
    (h : History before (first ++ .handedOut candidate name :: rest) after) : .reserved name ∉ first := by
  intro hfirst
  obtain ⟨_, _, hfresh⟩ := List.pairwise_append.mp h.fresh
  exact hfresh _ hfirst _ (List.mem_cons_self ..) name rfl rfl

end History

/-! ## Sessions -/

/-- Drafts are named by claims, one after the other. -/
theorem history_nameAll (drafts : List Declaration) (taken : Registry) :
    History taken (handouts drafts (nameAll drafts taken).1) (nameAll drafts taken).2 := by
  induction drafts generalizing taken with
  | nil => exact History.refl taken
  | cons draft rest ih =>
      rw [nameAll_cons]
      exact (History.claim taken draft.name).trans (ih (taken.reserve (taken.freeName draft.name)))

theorem history_perform (call : Call) (taken : Registry) :
    History taken (perform call taken).1 (perform call taken).2 := by
  cases call with
  | reserve name => exact History.reserve taken name
  | claim candidate => exact History.claim taken candidate
  | generate qualifier operations => exact history_nameAll (operations.flatMap (Operation.drafts qualifier)) taken

/-- **Sessions** make histories. -/
theorem history_run (calls : List Call) (taken : Registry) : History taken (run calls taken).1 (run calls taken).2 := by
  induction calls generalizing taken with
  | nil => exact History.refl taken
  | cons call rest ih => exact (history_perform call taken).trans (ih (perform call taken).2)

/-! ## Sizes -/

/-- How many names an event adds: one if a name is handed out, and one if a name is reserved that is new. -/
def growth (taken : Registry) : Event → Nat
  | .reserved name => if name ∈ taken then 0 else 1
  | .handedOut _ _ => 1

theorem size_reserve (taken : Registry) (name : String) :
    (taken.reserve name).size = taken.size + if name ∈ taken then 0 else 1 := by
  rw [reserve, NameSet.size_insert]
  split <;> rfl

theorem size_reserve_freeName (taken : Registry) (candidate : String) :
    (taken.reserve (taken.freeName candidate)).size = taken.size + 1 := by
  rw [size_reserve, if_neg (freeName_not_mem taken candidate)]

/-- Names that are handed out are new, whatever was in use at first. -/
theorem size_nameAll (first : Registry) (drafts : List Declaration) (taken : Registry) :
    (nameAll drafts taken).2.size =
      taken.size + ((handouts drafts (nameAll drafts taken).1).map (growth first)).sum := by
  induction drafts generalizing taken with
  | nil => rfl
  | cons draft rest ih =>
      have hrest := ih (taken.reserve (taken.freeName draft.name))
      rw [size_reserve_freeName, Nat.add_assoc] at hrest
      exact hrest

/-- A call adds a name for each that it hands out, and a name that it reserves if that is new. -/
theorem size_perform (call : Call) (taken : Registry) :
    (perform call taken).2.size = taken.size + ((perform call taken).1.map (growth taken)).sum := by
  cases call with
  | reserve name => exact size_reserve taken name
  | claim candidate => exact size_reserve_freeName taken candidate
  | generate qualifier operations => exact size_nameAll taken (operations.flatMap (Operation.drafts qualifier)) taken

/-! ## Order -/

/-- The code points of a name. -/
def codes (name : String) : List Nat :=
  name.toList.map Char.toNat

/-- Names are in the order of their code points. -/
theorem codes_lt_codes {first second : String} (h : first < second) : codes first < codes second := by
  have hlists : ∀ {cs ds : List Char}, cs < ds → cs.map Char.toNat < ds.map Char.toNat := by
    intro cs ds hlt
    induction hlt with
    | nil => exact List.Lex.nil
    | rel hchar => exact List.Lex.rel hchar
    | cons _ ih => exact List.Lex.cons ih
  exact hlists (show first.toList < second.toList from h)

/-! ## The laws -/

/-- **Sessions from nothing.**  Whatever is reserved, claimed and generated, in any order:

* the names that are handed out differ from each other, and none was reserved before;
* a generation hands out the names of its declarations;
* the registry has exactly the names that were reserved or handed out, in the order of their code points;
* the next call adds one name for each that it hands out, and one if it reserves a new name;
* the names that one candidate gets are spelled with growing numbers. -/
theorem run_laws (calls : List Call) :
    let (events, taken) := run calls ∅
    (events.filterMap Event.given?).Nodup ∧
      (∀ first candidate name rest, events = first ++ .handedOut candidate name :: rest → .reserved name ∉ first) ∧
      (∀ qualifier operations, (perform (.generate qualifier operations) taken).1.filterMap Event.given? =
        (Operation.requestDeclarations qualifier operations taken).1.map Declaration.name) ∧
      (∀ name, name ∈ taken ↔ .reserved name ∈ events ∨ name ∈ events.filterMap Event.given?) ∧
      (taken.names.map codes).Pairwise (· < ·) ∧
      (∀ call, (run (calls ++ [call]) ∅).2.size =
        taken.size + ((perform call taken).1.map (growth taken)).sum) ∧
      ∀ candidate, ∃ numbers : List Nat, numbers.Pairwise (· < ·) ∧
        events.filterMap (Event.givenFor? candidate) = numbers.map (spelled candidate) := by
  have h := history_run calls ∅
  refine ⟨h.nodup, ?_, ?_, ?_, ?_, ?_, ?_⟩
  · intro first candidate name rest hevents
    exact (hevents ▸ h).not_reserved
  · intro qualifier operations
    exact filterMap_given_generate qualifier operations _
  · intro name
    rw [h.mem_after, Event.mem_names]
    exact or_iff_right (NameSet.not_mem_empty name)
  · exact (NameSet.increasing _).map codes fun _ _ => codes_lt_codes
  · intro call
    rw [run_append]
    exact size_perform call _
  · intro candidate
    obtain ⟨numbers, hgrow, hnames, _⟩ := h.numbers candidate
    exact ⟨numbers, hgrow, hnames⟩

/-- A name is reserved after it was handed out: it stays in use once, and the next claim passes over it. -/
theorem run_laws_session :
    let session : List Call := [.reserve "User", .claim "User", .reserve "User1",
      .generate "" (Operation.ofDocument (Generated.listingDocument [])), .claim "GetUsersQueryParams", .claim "User"]
    let (events, taken) := run session ∅
    events.filterMap Event.given? = ["User1", "GetUsersQueryParams", "GetUsersQueryParams1", "User2"] ∧
      taken.names = ["GetUsersQueryParams", "GetUsersQueryParams1", "User", "User1", "User2"] ∧
      (events.filterMap Event.given?).Nodup ∧ .reserved "User1" ∉ [Event.reserved "User"] ∧
      ∃ numbers : List Nat, numbers.Pairwise (· < ·) ∧
        events.filterMap (Event.givenFor? "User") = numbers.map (spelled "User") := by
  intro session
  obtain ⟨hnodup, hreserved, _, _, _, _, hnumbers⟩ := run_laws session
  exact ⟨by decide +kernel, by decide +kernel, hnodup, hreserved [.reserved "User"] "User" "User1" _ rfl,
    hnumbers "User"⟩

end Registry

end ApiTypes
