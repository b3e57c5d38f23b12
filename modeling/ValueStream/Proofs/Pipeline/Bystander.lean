import Mathlib.Tactic.SplitIfs
import ValueStream.Proofs.Pipeline.Journey
import ValueStream.Proofs.Pipeline.SetUp

/-!
# Bystanders

A debug stage hands on everything, and so does an observer that accepts what it is shown; neither
reports a path or is found under a key. Such a bystander can be put anywhere in a pipeline without
the others taking notice (`bystander_unseen`): all that is set up is set up as without it, what
comes to the other places is the same in the same order and with the same paths, and so are the
states that the other elements are left in, the paths that they report and the outcome of each
event, also after events that ended in a fault.

A row with a bystander is compared to the row without it at a place counted from the front. The
event that comes to the place goes on from the bystander to what stood there before, one place
further on. The elements ahead of the place do not differ, so that by induction on their number the
two rows make the same of everything that they hand on.
-/

namespace ValueStream

/-! ## Bystanders -/

namespace Observer

/-- Whether the observer accepts events, shown to it one after the other. -/
def Accepts : Observer → List Event → Prop
  | _, [] => True
  | o, e :: later => (o.accept e).2.2 = none ∧ Accepts (o.accept e).2.1 later

/-- The observer after events are shown to it. -/
def shown (o : Observer) (es : List Event) : Observer := es.foldl (fun o e ↦ (o.accept e).2.1) o

theorem accepts_append (o : Observer) (es later : List Event) :
    o.Accepts (es ++ later) ↔ o.Accepts es ∧ (o.shown es).Accepts later := by
  induction es generalizing o with
  | nil => simp [Accepts, shown]
  | cons e es ih =>
    rw [List.cons_append, Accepts, Accepts, ih, and_assoc]
    rfl

end Observer

namespace Element

variable {x : Element}

/-- Whether the element is a debug stage or an observer. -/
def isBystander : Element → Bool
  | debug _ | observer _ => true
  | _ => false

theorem isBystander_iff :
    x.isBystander = true ↔ (∃ label, x = debug label) ∨ ∃ o, x = observer o := by
  constructor
  · intro hx
    cases x with
    | debug label => exact .inl ⟨label, rfl⟩
    | observer o => exact .inr ⟨o, rfl⟩
    | _ => cases hx
  · rintro (⟨label, rfl⟩ | ⟨o, rfl⟩) <;> rfl

/-- Whether the element, if it is an observer, accepts events shown to it one after the other. -/
def Accepts : Element → List Event → Prop
  | observer o, es => o.Accepts es
  | _, _ => True

/-- The element, if it is an observer, after events are shown to it. -/
def shown : Element → List Event → Element
  | observer o, es => observer (o.shown es)
  | x, _ => x

@[simp] theorem shown_nil (x : Element) : x.shown [] = x := by
  cases x <;> rfl

theorem shown_append (x : Element) (es later : List Event) :
    x.shown (es ++ later) = (x.shown es).shown later := by
  cases x with
  | observer o => exact congrArg observer List.foldl_append
  | _ => rfl

theorem accepts_append (x : Element) (es later : List Event) :
    x.Accepts (es ++ later) ↔ x.Accepts es ∧ (x.shown es).Accepts later := by
  cases x with
  | observer o => exact o.accepts_append es later
  | _ => exact (and_self_iff).symm

@[simp] theorem isBystander_shown (x : Element) (es : List Event) :
    (x.shown es).isBystander = x.isBystander := by
  cases x <;> rfl

theorem isChecker_of_isBystander (hx : x.isBystander = true) : x.isChecker = false := by
  obtain ⟨label, rfl⟩ | ⟨o, rfl⟩ := isBystander_iff.1 hx <;> rfl

theorem reading_of_isBystander (hx : x.isBystander = true) (ahead : Option Path) :
    x.reading ahead = none := by
  obtain ⟨label, rfl⟩ | ⟨o, rfl⟩ := isBystander_iff.1 hx <;> rfl

/-- What a bystander accepts it hands on as it is, and reports no path meanwhile. -/
theorem step_of_isBystander (hx : x.isBystander = true) {e : Event} (haccepts : x.Accepts [e])
    (ahead : Option Path) :
    ∃ notes, x.step ahead e =
      { Step.forward e none (x.shown [e]) (x.shown [e]) with notes := notes } := by
  obtain ⟨label, rfl⟩ | ⟨o, rfl⟩ := isBystander_iff.1 hx
  · exact ⟨_, rfl⟩
  · refine ⟨(o.accept e).1, ?_⟩
    have hnone : (o.accept e).2.2 = none := haccepts.1
    have hshown : (observer o).shown [e] = observer (o.accept e).2.1 := rfl
    rw [step, observerStep, hshown]
    generalize o.accept e = shown at hnone ⊢
    obtain ⟨notes, o', error⟩ := shown
    obtain rfl : error = none := hnone
    rfl

end Element

/-! ## The other places -/

namespace Arrival

/-- The arrival as it would be without the element at a place, if it is none at that place. -/
def without (place : Nat) (a : Arrival) : Option Arrival :=
  if a.place < place then some { a with paths := a.paths.eraseIdx (place - a.place) }
  else if a.place = place then none
  else some { a with place := a.place - 1 }

theorem without_further {place : Nat} {a : Arrival} (h : place ≤ a.place) :
    a.further.without place = some a := by
  rw [without, further, if_neg (by dsimp only; omega), if_neg (by dsimp only; omega)]
  rfl

theorem without_of_insertIdx (a : Arrival) {count : Nat} (h : 0 < count) (path : Option Path) :
    without (a.place + count) { a with paths := a.paths.insertIdx count path } = some a := by
  rw [without, if_pos (by dsimp only; omega)]
  simp only [Nat.add_sub_cancel_left, List.eraseIdx_insertIdx_self]

end Arrival

/-- The arrivals at the other places, as they would be without the element at a place. -/
def others (place : Nat) (arrivals : List Arrival) : List Arrival :=
  arrivals.filterMap (Arrival.without place)

/-- The events that come to a place. -/
def eventsAt (place : Nat) (arrivals : List Arrival) : List Event :=
  (arrivals.filter (·.place == place)).map Arrival.event

section
variable {place : Nat} {a : Arrival}

theorem others_append (as later : List Arrival) :
    others place (as ++ later) = others place as ++ others place later :=
  List.filterMap_append

theorem eventsAt_append (as later : List Arrival) :
    eventsAt place (as ++ later) = eventsAt place as ++ eventsAt place later := by
  simp [eventsAt]

theorem eventsAt_cons_of_lt (h : a.place < place) (as : List Arrival) :
    eventsAt place (a :: as) = eventsAt place as := by
  simp [eventsAt, Nat.ne_of_lt h]

theorem others_cons_of_eq (h : a.place = place) (as : List Arrival) :
    others place (a :: as) = others place as := by
  simp [others, Arrival.without, h]

theorem eventsAt_cons_of_eq (h : a.place = place) {as : List Arrival}
    (has : ∀ b ∈ as, place < b.place) : eventsAt place (a :: as) = [a.event] := by
  have hnone : as.filter (·.place == place) = [] := by
    rw [List.filter_eq_nil_iff]
    intro b hb
    have hlt := has b hb
    simp only [beq_iff_eq]
    omega
  simp [eventsAt, h, hnone]

theorem others_map_further {as : List Arrival} (h : ∀ a ∈ as, place ≤ a.place) :
    others place (as.map .further) = as := by
  rw [others]
  induction as with
  | nil => rfl
  | cons a as ih =>
    obtain ⟨ha, has⟩ := List.forall_mem_cons.1 h
    rw [List.map_cons, List.filterMap_cons_some (Arrival.without_further ha), ih has]

end

/-! ## A row with a bystander -/

/-- What becomes of a row with a bystander at a place, after so many elements of the row, is what
becomes of the row without it. -/
structure Journey.SameBut (j' j : Journey) (place count : Nat) (x : Element) : Prop where
  /-- The elements but for the bystander, which is shown what comes to the place. -/
  elements : j'.elements = j.elements.insertIdx count (x.shown (eventsAt place j.arrivals))
  /-- What comes to the other places. -/
  arrivals : others place j'.arrivals = j.arrivals
  /-- The fault. -/
  fault : j'.fault = j.fault

section
variable {x : Element}

/-- A bystander reports no path, and the others report theirs. -/
theorem pathsFrom_insertIdx (hx : x.isBystander = true) (count : Nat) (ahead : Option Path)
    (row : List Element) :
    pathsFrom ahead (row.insertIdx count x) = (pathsFrom ahead row).insertIdx count none := by
  induction count generalizing ahead row with
  | zero =>
    rw [List.insertIdx_zero, List.insertIdx_zero, pathsFrom, Element.reading_of_isBystander hx,
      Option.none_or]
  | succ count ih =>
    cases row with
    | nil => rfl
    | cons first rest =>
      rw [List.insertIdx_succ_cons, pathsFrom, pathsFrom, ih, List.insertIdx_succ_cons]

theorem Journey.SameBut.after {j' j : Journey} {place count : Nat} {a' a : Arrival}
    (h : j'.SameBut j place count x) (hsame : a'.without place = some a) (ha : a.place < place) :
    (j'.after [a']).SameBut (j.after [a]) place count x where
  elements := by
    rw [arrivals_after, List.singleton_append, eventsAt_cons_of_lt ha]
    exact h.elements
  arrivals := by
    rw [arrivals_after, arrivals_after, List.singleton_append, List.singleton_append, ← h.arrivals]
    exact List.filterMap_cons_some hsame
  fault := h.fault

private theorem trackOn_bystander
    {next' next : List Element → Option Path → Event → Journey} {length place count : Nat}
    (hlength : ∀ rest ahead e, rest.length = length → (next rest ahead e).elements.length = length)
    (hnext : ∀ rest x ahead e, rest.length = length → x.isBystander = true →
      x.Accepts (eventsAt place (next rest ahead e).arrivals) →
      (next' (rest.insertIdx count x) ahead e).SameBut (next rest ahead e) place count x)
    (ahead : Option Path) (state : Element) (fault : Option Fault)
    (ds : List (Delivery Element)) (rest : List Element) (hrest : rest.length = length)
    (hx : x.isBystander = true)
    (haccepts : x.Accepts (eventsAt place (trackOn next ahead state fault ds rest).arrivals)) :
    (trackOn next' ahead state fault ds (rest.insertIdx count x)).SameBut
      (trackOn next ahead state fault ds rest) place (count + 1) x := by
  induction ds generalizing rest x with
  | nil => exact ⟨by simp [trackOn, eventsAt], rfl, rfl⟩
  | cons d ds ih =>
    rw [trackOn] at haccepts ⊢
    rw [trackOn]
    cases hfault : (next rest (d.path.or ahead) d.event).fault with
    | some f =>
      simp only [hfault] at haccepts ⊢
      have hnow := hnext rest x (d.path.or ahead) d.event hrest hx haccepts
      simp only [hnow.fault, hfault, hnow.elements]
      exact ⟨rfl, hnow.arrivals, rfl⟩
    | none =>
      -- The bystander has been shown this event when the next one is handed on.
      simp only [hfault] at haccepts ⊢
      rw [Journey.arrivals_after, eventsAt_append, Element.accepts_append] at haccepts
      have hnow := hnext rest x (d.path.or ahead) d.event hrest hx haccepts.1
      have hlater := ih _ (hlength rest (d.path.or ahead) d.event hrest)
        ((Element.isBystander_shown _ _).trans hx) haccepts.2
      simp only [hnow.fault, hfault, hnow.elements]
      refine ⟨?_, ?_, hlater.fault⟩
      · rw [Journey.arrivals_after, eventsAt_append, Element.shown_append]
        exact hlater.elements
      · rw [Journey.arrivals_after, Journey.arrivals_after, others_append, hnow.arrivals,
          hlater.arrivals]

/-- What is sent to a bystander comes next to the row behind. -/
private theorem track_cons_bystander {e : Event} (hx : x.isBystander = true)
    (haccepts : x.Accepts [e]) (length place : Nat) (row : List Element) (ahead : Option Path) :
    let j := track length place row ahead e
    ∃ paths notes, track (length + 1) place (x :: row) ahead e =
      { elements := x.shown [e] :: j.elements
        arrivals := ⟨place, e, ahead, paths, notes⟩ :: j.arrivals.map .further
        fault := j.fault } := by
  obtain ⟨notes, hstep⟩ := Element.step_of_isBystander hx haccepts ahead
  refine ⟨pathsFrom ahead (x :: row), notes, ?_⟩
  rw [track, hstep]
  simp only [Step.forward, trackOn, Option.none_or, track_succ, Journey.further]
  split
  · rfl
  · next hnone => simp [Journey.after, hnone]

/-- The bystander comes first. -/
private theorem track_bystander_zero {place length : Nat} {row : List Element}
    (hrow : row.length = length) (hx : x.isBystander = true) (ahead : Option Path) (e : Event)
    (haccepts : x.Accepts (eventsAt place (track length place row ahead e).arrivals)) :
    (track (length + 1) place (x :: row) ahead e).SameBut (track length place row ahead e) place 0
      x := by
  obtain ⟨_, _, later, harrivals, hlater⟩ := arrivals_track hrow place ahead e
  have hevents : eventsAt place (track length place row ahead e).arrivals = [e] := by
    rw [harrivals]
    exact eventsAt_cons_of_eq rfl hlater
  rw [hevents] at haccepts
  obtain ⟨paths, notes, htrack⟩ := track_cons_bystander hx haccepts length place row ahead
  rw [htrack]
  refine ⟨?_, ?_, rfl⟩
  · rw [hevents, List.insertIdx_zero]
  · exact (others_cons_of_eq rfl _).trans
      (others_map_further (le_place_track length place row ahead e))

/-- The place is that of the first element, or further back. -/
private theorem track_bystander {place length count : Nat} {row : List Element}
    (hrow : row.length = length) (hcount : count ≤ length) (hx : x.isBystander = true)
    (ahead : Option Path) (e : Event)
    (haccepts : x.Accepts (eventsAt (place + count) (track length place row ahead e).arrivals)) :
    (track (length + 1) place (row.insertIdx count x) ahead e).SameBut
      (track length place row ahead e) (place + count) count x := by
  induction count generalizing place length row x ahead e with
  | zero => exact track_bystander_zero hrow hx ahead e haccepts
  | succ count ih =>
    obtain ⟨length, rfl⟩ : ∃ n, length = n + 1 := ⟨length - 1, by omega⟩
    obtain ⟨first, rest, rfl⟩ := List.exists_cons_of_length_eq_add_one hrow
    have hplace : place + (count + 1) = place + 1 + count := by omega
    have hlt : place < place + 1 + count := by omega
    rw [hplace] at haccepts ⊢
    rw [track, Journey.arrivals_after, List.singleton_append, eventsAt_cons_of_lt hlt] at haccepts
    rw [List.insertIdx_succ_cons, track, track]
    refine (trackOn_bystander ?_ ?_ ahead _ _ _ rest (Nat.succ.inj hrow) hx haccepts).after ?_ hlt
    · intro rest ahead e hrest
      exact length_track hrest (place + 1) ahead e
    · intro rest x ahead e hrest hx haccepts
      exact ih hrest (by omega) hx ahead e haccepts
    · have hpaths := pathsFrom_insertIdx hx (count + 1) ahead (first :: rest)
      rw [List.insertIdx_succ_cons] at hpaths
      rw [hpaths, ← hplace]
      exact Arrival.without_of_insertIdx ⟨place, e, ahead, _, _⟩ (Nat.succ_pos count) none

end

/-! ## A pipeline with a bystander -/

/-- All that can be seen of an event in a pipeline. -/
structure Report where
  /-- What comes to the places, in order. -/
  arrivals : List Arrival
  /-- The fault that the event ends in, if it does. -/
  fault : Option Fault
  /-- The elements afterwards. -/
  elements : List Element
  /-- The paths that the elements report afterwards. -/
  paths : List (Option Path)
  /-- The path of the last element that reports one. -/
  reading : Option Path

/-- The report without the element at a place and what comes to it. -/
def Report.without (place : Nat) (r : Report) : Report :=
  { r with
    arrivals := others place r.arrivals
    elements := r.elements.eraseIdx place
    paths := r.paths.eraseIdx place }

namespace Pipeline

/-- The pipeline with a further element at a place. -/
def insert (p : Pipeline) (place : Nat) (x : Element) : Pipeline :=
  ⟨p.elements.insertIdx place x⟩

/-- The paths that the elements report between events. -/
def paths (p : Pipeline) : List (Option Path) := pathsFrom none p.elements

/-- The pipeline after an event, also if it ended in a fault. -/
def next (p : Pipeline) (e : Event) : Pipeline := ⟨(p.send e).elements⟩

/-- What is to be seen of an event. -/
def report (p : Pipeline) (e : Event) : Report where
  arrivals := (track p.length 0 p.elements none e).arrivals
  fault := (p.send e).fault
  elements := (p.next e).elements
  paths := (p.next e).paths
  reading := (p.next e).reading

/-- What is to be seen of events, one after the other, also behind those that end in a fault. -/
def reports (p : Pipeline) : List Event → List Report
  | [] => []
  | e :: later => p.report e :: (p.next e).reports later

/-- The events that come to a place. -/
def comesTo (p : Pipeline) (place : Nat) (events : List Event) : List Event :=
  (p.reports events).flatMap fun r ↦ eventsAt place r.arrivals

section
variable {p : Pipeline} {place : Nat} {x : Element}

theorem insert_append (front back : List Element) (x : Element) :
    (mk (front ++ back)).insert front.length x = ⟨front ++ x :: back⟩ := by
  induction front with
  | nil => rfl
  | cons first front ih => exact congrArg (fun p ↦ mk (first :: p.elements)) ih

theorem exists_append (hplace : place ≤ p.length) :
    ∃ front back, p = ⟨front ++ back⟩ ∧ place = front.length :=
  ⟨p.elements.take place, p.elements.drop place, by rw [List.take_append_drop],
    (List.length_take_of_le hplace).symm⟩

theorem length_insert (hplace : place ≤ p.length) (x : Element) :
    (p.insert place x).length = p.length + 1 :=
  List.length_insertIdx_of_le_length hplace x

/-! ### What is found ahead -/

theorem hasChecker_insert (hplace : place ≤ p.length) (hx : x.isBystander = true) :
    (p.insert place x).hasChecker = p.hasChecker := by
  obtain ⟨front, back, rfl, rfl⟩ := exists_append hplace
  rw [insert_append, hasChecker, hasChecker, List.any_append, List.any_append, List.any_cons,
    Element.isChecker_of_isBystander hx, Bool.false_or]

theorem checkerPath_insert (hplace : place ≤ p.length) (hx : x.isBystander = true) :
    (p.insert place x).checkerPath = p.checkerPath := by
  obtain ⟨front, back, rfl, rfl⟩ := exists_append hplace
  rw [insert_append, checkerPath, checkerPath, List.findSome?_append, List.findSome?_append,
    List.findSome?_cons]
  obtain ⟨label, rfl⟩ | ⟨o, rfl⟩ := Element.isBystander_iff.1 hx <;> rfl

theorem reading_insert (hplace : place ≤ p.length) (hx : x.isBystander = true) :
    (p.insert place x).reading = p.reading := by
  obtain ⟨front, back, rfl, rfl⟩ := exists_append hplace
  rw [insert_append, reading, reading, List.foldl_append, List.foldl_append, List.foldl_cons,
    Element.reading_of_isBystander hx, Option.none_or]

theorem survey_insert (hplace : place ≤ p.length) (hx : x.isBystander = true) :
    (p.insert place x).survey = p.survey := by
  rw [survey, survey, hasChecker_insert hplace hx, checkerPath_insert hplace hx,
    reading_insert hplace hx]

theorem paths_insert (hx : x.isBystander = true) (p : Pipeline) (place : Nat) :
    (p.insert place x).paths = p.paths.insertIdx place none :=
  pathsFrom_insertIdx hx place none p.elements

/-! ### Setting up -/

theorem insert_length (p : Pipeline) (x : Element) : p.insert p.length x = p.add x :=
  congrArg mk List.insertIdx_length_self

theorem add_insert (hplace : place ≤ p.length) (x e : Element) :
    (p.insert place x).add e = (p.add e).insert place x := by
  obtain ⟨front, back, rfl, rfl⟩ := exists_append hplace
  rw [insert_append, add, add, List.append_assoc, List.append_assoc, insert_append,
    List.cons_append]

theorem ensureChecker_insert (hplace : place ≤ p.length) (hx : x.isBystander = true) :
    (p.insert place x).ensureChecker = p.ensureChecker.insert place x := by
  rw [ensureChecker, ensureChecker, hasChecker_insert hplace hx]
  split
  · rfl
  · exact add_insert hplace x _

/-- What is set up behind the bystander is set up as without it, and nothing else is found. -/
theorem meetAll_insert (hplace : place ≤ p.length) (hx : x.isBystander = true)
    (wishes : List Wish) :
    Wish.meetAll (p.insert place x) wishes =
      ((Wish.meetAll p wishes).1.insert place x, (Wish.meetAll p wishes).2) := by
  induction wishes using Wish.listInduction generalizing p with
  | nil => rfl
  | ensureChecker later ih =>
    have hlength := hplace.trans p.ensureChecker_grows.length_le
    simp only [Wish.meetAll, Wish.meet, ensureChecker_insert hplace hx, ih hlength]
  | add element wishes watch later ihWishes ihLater =>
    have hmet : place ≤ (Wish.meetAll p wishes).1.length :=
      hplace.trans (p.meet_grows wishes).length_le
    have hadded : place ≤ ((Wish.meetAll p wishes).1.add element).length :=
      hmet.trans (List.prefix_append _ [element]).length_le
    simp only [Wish.meetAll, Wish.meet, Blueprint.setUp, ihWishes hplace, survey_insert hplace hx,
      survey_insert hmet hx, add_insert hmet, ihLater hadded]

theorem meetAll_append (p : Pipeline) (wishes later : List Wish) :
    Wish.meetAll p (wishes ++ later) =
      let q := (Wish.meetAll p wishes).1
      ((Wish.meetAll q later).1, (Wish.meetAll p wishes).2 ++ (Wish.meetAll q later).2) := by
  induction wishes generalizing p with
  | nil => rfl
  | cons w wishes ih => simp only [List.cons_append, Wish.meetAll, ih, List.append_assoc]

theorem setUp_of_isBystander (hx : x.isBystander = true) (p : Pipeline) :
    (Blueprint.ofElement x).setUp p = (p.add x, []) := by
  obtain ⟨label, rfl⟩ | ⟨o, rfl⟩ := Element.isBystander_iff.1 hx <;> rfl

/-- A bystander among blueprints comes where the next element would have come. -/
theorem build_insert (hx : x.isBystander = true) (before after : List Blueprint) :
    build (before ++ .ofElement x :: after) =
      ((build (before ++ after)).1.insert (build before).1.length x,
        (build (before ++ after)).2) := by
  have hadd (p : Pipeline) (wishes : List Wish) :
      Wish.meetAll p (.add (.ofElement x) :: wishes) =
        ((Wish.meetAll p wishes).1.insert p.length x, (Wish.meetAll p wishes).2) := by
    rw [Wish.meetAll, Wish.meet, setUp_of_isBystander hx]
    simp only [← insert_length, meetAll_insert (Nat.le_refl _) hx, List.nil_append]
  simp only [build, List.map_append, List.map_cons, meetAll_append, hadd]

theorem length_build_le (before after : List Blueprint) :
    (build before).1.length ≤ (build (before ++ after)).1.length := by
  have hgrows := meet_grows (build before).1 (after.map .add)
  rw [build, build, List.map_append, meetAll_append]
  exact hgrows.length_le

/-! ### Events -/

theorem length_next (p : Pipeline) (e : Event) : (p.next e).length = p.length :=
  length_dispatch p.length p.elements none e rfl

theorem comesTo_cons (p : Pipeline) (place : Nat) (e : Event) (later : List Event) :
    p.comesTo place (e :: later) =
      eventsAt place (p.report e).arrivals ++ (p.next e).comesTo place later := rfl

theorem sameBut_insert (hplace : place ≤ p.length) (hx : x.isBystander = true) (e : Event)
    (haccepts : x.Accepts (eventsAt place (p.report e).arrivals)) :
    (track (p.insert place x).length 0 (p.insert place x).elements none e).SameBut
      (track p.length 0 p.elements none e) place place x := by
  have hrow : p.elements.length = p.length := rfl
  have hsame := track_bystander hrow hplace hx none e (by rwa [Nat.zero_add place])
  rwa [Nat.zero_add place, ← length_insert hplace x] at hsame

/-- The pipelines after an event differ by the bystander again, which has been shown the event. -/
theorem next_insert (hplace : place ≤ p.length) (hx : x.isBystander = true) (e : Event)
    (haccepts : x.Accepts (eventsAt place (p.report e).arrivals)) :
    (p.insert place x).next e =
      (p.next e).insert place (x.shown (eventsAt place (p.report e).arrivals)) := by
  have hsame := sameBut_insert hplace hx e haccepts
  rw [next, next, send, send, ← run_track _ 0, ← run_track _ 0]
  exact congrArg mk hsame.elements

theorem report_insert (hplace : place ≤ p.length) (hx : x.isBystander = true) (e : Event)
    (haccepts : x.Accepts (eventsAt place (p.report e).arrivals)) :
    ((p.insert place x).report e).without place = p.report e := by
  have hsame := sameBut_insert hplace hx e haccepts
  have hfault : ((p.insert place x).send e).fault = (p.send e).fault := by
    rw [send, send, ← run_track _ 0, ← run_track _ 0]
    exact hsame.fault
  have hx' := (x.isBystander_shown (eventsAt place (p.report e).arrivals)).trans hx
  have hnext := next_insert hplace hx e haccepts
  have hreading := reading_insert (hplace.trans_eq (p.length_next e).symm) hx'
  rw [report, hnext, hfault, paths_insert hx', hreading, Report.without]
  simp only [hsame.arrivals]
  rw [insert, List.eraseIdx_insertIdx_self, List.eraseIdx_insertIdx_self, report]

/-- **With a bystander the others see the same.** -/
theorem reports_insert (hplace : place ≤ p.length) (hx : x.isBystander = true)
    (events : List Event) (haccepts : x.Accepts (p.comesTo place events)) :
    ((p.insert place x).reports events).map (.without place) = p.reports events := by
  induction events generalizing p x with
  | nil => rfl
  | cons e later ih =>
    rw [comesTo_cons, Element.accepts_append] at haccepts
    rw [reports, reports, List.map_cons, report_insert hplace hx e haccepts.1,
      next_insert hplace hx e haccepts.1,
      ih (hplace.trans_eq (p.length_next e).symm) ((x.isBystander_shown _).trans hx) haccepts.2]

/-- **A bystander is not noticed.** Put among blueprints, it comes where the next element would have
come; nothing else is set up, and what is found ahead is the same. At its place no path is reported,
and the others report those that they report without it. If it accepts the events that would come
to its place, all that is to be seen of the events is the same at the other places: what comes to
them, with the paths that are reported meanwhile and the notes taken, the states and the paths
afterwards, and the fault of each event. -/
theorem bystander_unseen (hx : x.isBystander = true) (before after : List Blueprint) :
    let p := (build (before ++ after)).1
    let place := (build before).1.length
    build (before ++ .ofElement x :: after) = (p.insert place x, (build (before ++ after)).2) ∧
      (p.insert place x).paths = p.paths.insertIdx place none ∧
      (p.insert place x).reading = p.reading ∧
      ∀ events, x.Accepts (p.comesTo place events) →
        ((p.insert place x).reports events).map (.without place) = p.reports events := by
  intro p place
  have hplace : place ≤ p.length := length_build_le before after
  exact ⟨build_insert hx before after, paths_insert hx p place, reading_insert hplace hx,
    fun events haccepts ↦ reports_insert hplace hx events haccepts⟩

end

/-- An observer that would refuse the third event stands ahead of the checker that a reorder has set
up. It is shown two, of which the checker refuses the second. -/
theorem bystander_unseen_of_judge :
    let x : Element := .observer (.judge (Observer.refuseAt [2]) [])
    let before : List Blueprint := [.ofElement (.stamper .root [])]
    let after : List Blueprint := [.ofElement (.reorder { orders := fun _ ↦ [] })]
    let p := (build (before ++ after)).1
    let events : List Event := [⟨.value .null, none⟩, ⟨.value .null, none⟩]
    x.isBystander = true ∧ x.Accepts (p.comesTo 1 events) ∧
      (p.reports events).map (·.fault.isSome) = [false, true] ∧
      build (before ++ .ofElement x :: after) = (p.insert 1 x, []) ∧
      ((p.insert 1 x).reports events).map (.without 1) = p.reports events := by
  intro x before after p events
  have hx : x.isBystander = true := rfl
  have haccepts : x.Accepts (p.comesTo 1 events) := ⟨rfl, rfl, trivial⟩
  obtain ⟨hbuild, -, -, hreports⟩ := bystander_unseen hx before after
  exact ⟨hx, haccepts, rfl, hbuild, hreports events haccepts⟩

end Pipeline

end ValueStream
