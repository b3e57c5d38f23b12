import ValueStream.Proofs.Pipeline.Row

/-!
# What comes where

Sending an event into a row of elements makes events come to elements behind, and past the last one.
`track` sends an event like `dispatch` does and keeps what comes to which place, in order, with the
paths that are reported at that time, ahead of the place and from there on, and the notes that the
element there takes.
The elements, the notes and the fault are those of `dispatch` (`run_track`).

A place is counted from the front of the pipeline, and a row that begins at a place is tracked like
one that begins further on, but for the places (`track_succ`).
-/

namespace ValueStream

/-- The paths that elements report between events, with one that is reported ahead. -/
def pathsFrom (ahead : Option Path) : List Element → List (Option Path)
  | [] => []
  | e :: rest => e.reading ahead :: pathsFrom ((e.reading ahead).or ahead) rest

/-- An event that comes to a place in a pipeline. -/
structure Arrival where
  /-- The number of elements ahead of the place. -/
  place : Nat
  /-- The event. -/
  event : Event
  /-- The path that is reported ahead of the place at that time. -/
  ahead : Option Path
  /-- The paths that the elements from the place on report at that time. -/
  paths : List (Option Path)
  /-- The notes that the element at the place takes. -/
  notes : List Note

/-- The outcome of sending an event into elements, with all that comes to them. -/
structure Journey where
  /-- The elements afterwards. -/
  elements : List Element
  /-- The events that come to places, in order. -/
  arrivals : List Arrival := []
  /-- What ended it early, if something did. -/
  fault : Option Fault := none

namespace Journey

/-- Puts arrivals before those of a journey. -/
def after (earlier : List Arrival) (j : Journey) : Journey :=
  { j with arrivals := earlier ++ j.arrivals }

@[simp] theorem elements_after (earlier : List Arrival) (j : Journey) :
    (j.after earlier).elements = j.elements := rfl

@[simp] theorem arrivals_after (earlier : List Arrival) (j : Journey) :
    (j.after earlier).arrivals = earlier ++ j.arrivals := rfl

@[simp] theorem fault_after (earlier : List Arrival) (j : Journey) :
    (j.after earlier).fault = j.fault := rfl

/-- The run that a journey makes. -/
def run (j : Journey) : Run where
  elements := j.elements
  notes := j.arrivals.flatMap Arrival.notes
  fault := j.fault

end Journey

/-- Sends what an element hands on to the elements behind it. -/
def trackOn (next : List Element → Option Path → Event → Journey) (ahead : Option Path)
    (state : Element) (fault : Option Fault) :
    List (Delivery Element) → List Element → Journey
  | [], rest => { elements := state :: rest, fault := fault }
  | d :: later, rest =>
    let j := next rest (d.path.or ahead) d.event
    match j.fault with
    | some _ => { j with elements := d.refused :: j.elements }
    | none => (trackOn next ahead state fault later j.elements).after j.arrivals

/-- Sends an event into the first so many elements, of which the first stands at a place. Past the
last element it comes to the place behind. -/
def track : Nat → Nat → List Element → Option Path → Event → Journey
  | 0, place, elements, ahead, e =>
    { elements := elements, arrivals := [⟨place, e, ahead, [], []⟩] }
  | _ + 1, _, [], _, _ => { elements := [] }
  | count + 1, place, first :: rest, ahead, e =>
    let s := first.step ahead e
    (trackOn (track count (place + 1)) ahead s.state s.fault s.deliveries rest).after
      [⟨place, e, ahead, pathsFrom ahead (first :: rest), s.notes⟩]

/-! ## The run -/

@[simp] theorem Journey.run_after (earlier : List Arrival) (j : Journey) :
    (j.after earlier).run = j.run.after (earlier.flatMap Arrival.notes) := by
  simp [run, Journey.after, Run.after]

private theorem run_trackOn {next : List Element → Option Path → Event → Journey}
    {send : List Element → Option Path → Event → Run}
    (hnext : ∀ rest ahead e, (next rest ahead e).run = send rest ahead e) (ahead : Option Path)
    (state : Element) (fault : Option Fault) (ds : List (Delivery Element))
    (rest : List Element) :
    (trackOn next ahead state fault ds rest).run = handOn send ahead state fault ds rest := by
  induction ds generalizing rest with
  | nil => rfl
  | cons d ds ih =>
    rw [trackOn, handOn, ← hnext]
    cases hfault : (next rest (d.path.or ahead) d.event).fault with
    | some f => simp [Journey.run, hfault]
    | none =>
      simp only [Journey.run_after, ih]
      simp [Journey.run, hfault]

/-- **A tracked event is sent as it is without being tracked.** -/
theorem run_track (count place : Nat) (row : List Element) (ahead : Option Path) (e : Event) :
    (track count place row ahead e).run = dispatch count row ahead e := by
  induction count generalizing place row ahead e with
  | zero => rfl
  | succ count ih =>
    cases row with
    | nil => rfl
    | cons first rest =>
      rw [track, dispatch, Journey.run_after, run_trackOn (ih (place + 1))]
      simp

theorem length_track {count : Nat} {row : List Element} (hrow : row.length = count) (place : Nat)
    (ahead : Option Path) (e : Event) :
    (track count place row ahead e).elements.length = count := by
  have hlength := length_dispatch count row ahead e hrow
  rwa [← run_track count place] at hlength

/-! ## Places -/

/-- The arrival one place further on. -/
def Arrival.further (a : Arrival) : Arrival := { a with place := a.place + 1 }

/-- The journey with each arrival one place further on. -/
def Journey.further (j : Journey) : Journey := { j with arrivals := j.arrivals.map .further }

private theorem trackOn_further {next next' : List Element → Option Path → Event → Journey}
    (hnext : ∀ rest ahead e, next' rest ahead e = (next rest ahead e).further)
    (ahead : Option Path) (state : Element) (fault : Option Fault)
    (ds : List (Delivery Element)) (rest : List Element) :
    trackOn next' ahead state fault ds rest = (trackOn next ahead state fault ds rest).further := by
  induction ds generalizing rest with
  | nil => rfl
  | cons d ds ih =>
    rw [trackOn, trackOn, hnext]
    simp only [Journey.further]
    split
    · rfl
    · simp [ih, Journey.further, Journey.after]

/-- A row further on is tracked alike. -/
theorem track_succ (count place : Nat) (row : List Element) (ahead : Option Path) (e : Event) :
    track count (place + 1) row ahead e = (track count place row ahead e).further := by
  induction count generalizing place row ahead e with
  | zero => rfl
  | succ count ih =>
    cases row with
    | nil => rfl
    | cons first rest =>
      rw [track, track, trackOn_further (ih (place + 1))]
      rfl

private theorem le_place_trackOn {next : List Element → Option Path → Event → Journey} {place : Nat}
    (hnext : ∀ rest ahead e, ∀ a ∈ (next rest ahead e).arrivals, place ≤ a.place)
    (ahead : Option Path) (state : Element) (fault : Option Fault)
    (ds : List (Delivery Element)) (rest : List Element) :
    ∀ a ∈ (trackOn next ahead state fault ds rest).arrivals, place ≤ a.place := by
  induction ds generalizing rest with
  | nil => simp [trackOn]
  | cons d ds ih =>
    rw [trackOn]
    split
    · exact hnext _ _ _
    · intro a ha
      rcases List.mem_append.1 ha with ha | ha
      · exact hnext _ _ _ a ha
      · exact ih _ a ha

theorem le_place_track (count place : Nat) (row : List Element) (ahead : Option Path) (e : Event) :
    ∀ a ∈ (track count place row ahead e).arrivals, place ≤ a.place := by
  induction count generalizing place row ahead e with
  | zero => simp [track]
  | succ count ih =>
    cases row with
    | nil => simp [track]
    | cons first rest =>
      intro a ha
      rcases List.mem_cons.1 ha with rfl | ha
      · exact Nat.le_refl _
      · have hlt := le_place_trackOn (ih (place + 1)) ahead _ _ _ rest a ha
        omega

/-- Nothing but the event that is sent comes to the place where the row begins. -/
theorem arrivals_track {count : Nat} {row : List Element} (hrow : row.length = count) (place : Nat)
    (ahead : Option Path) (e : Event) :
    ∃ paths notes later,
      (track count place row ahead e).arrivals = ⟨place, e, ahead, paths, notes⟩ :: later ∧
        ∀ a ∈ later, place < a.place := by
  cases count with
  | zero => exact ⟨[], [], [], rfl, by simp⟩
  | succ count =>
    obtain ⟨first, rest, rfl⟩ := List.exists_cons_of_length_eq_add_one hrow
    exact ⟨_, _, _, rfl, le_place_trackOn (le_place_track count (place + 1)) ahead _ _ _ rest⟩

end ValueStream
