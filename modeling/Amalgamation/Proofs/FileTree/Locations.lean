import Amalgamation.FileTree
import Amalgamation.Proofs.Results
import Mathlib.Data.String.Basic
import Mathlib.Tactic.ByContra

/-!
# Where a path leads

There are no links in a file tree. A path that can be followed therefore leads where its spelling
says (`FileTree.lexicalLocation_eq`): fillers stay where they are, `..` takes the last name away and
a name is appended. Putting a relative path below a directory continues from where the directory
leads (`FileTree.lexicalLocation_join`, `FileTree.locate_join`).

A path is plain if no segment of it is a filler or `..`. Plain paths below one directory lead to
different places if they are spelled differently (`FileTree.eq_of_lexicalLocation_join`).

Each path comes to a number of names that it takes away and the names it goes into after that
(`Path.route`). A relative path leads out of the directory that it is put below only if it takes
names away and does not go back into the same ones (`FileTree.isBelow_join_iff`).
-/

set_option autoImplicit false

namespace Amalgamation

theorem Text.splitOn_append (separator : Char) (first second : Text) :
    Text.splitOn separator (first ++ separator :: second) =
      Text.splitOn separator first ++ Text.splitOn separator second := by
  induction first with
  | nil => simp [Text.splitOn]
  | cons c first ih =>
    rw [List.cons_append, Text.splitOn, ih, Text.splitOn]
    split
    · rfl
    · cases split : Text.splitOn separator first with
      | nil => exact absurd split (Text.splitOn_ne_nil separator first)
      | cons piece pieces => rfl

theorem Text.splitOn_injective (separator : Char) {first second : Text}
    (same : Text.splitOn separator first = Text.splitOn separator second) : first = second := by
  rw [← Text.joinWith_splitOn separator first, same, Text.joinWith_splitOn]

/-- Whether every segment of a path is the name of something in what stands before it. -/
def Path.isPlain (path : Path) : Bool :=
  path.segments.all fun segment => !isFiller segment && segment ≠ ['.', '.']

/-- The segments of a relative path come behind those of a directory that it is put below, a slash
at the end of the directory apart. -/
theorem Path.segments_join_relative {base path : Path} (filled : base.text ≠ [])
    (relative : path.isAbsolute = false) :
    ∃ front, (base.join path).isAbsolute = base.isAbsolute ∧
      (base.join path).segments = front ++ path.segments ∧
      (base.segments = front ∨ base.segments = front ++ [[]]) := by
  obtain ⟨text⟩ := base
  have starts : ∀ rest, isAbsolute ⟨text ++ rest⟩ = isAbsolute ⟨text⟩ := by
    obtain ⟨c, text, rfl⟩ := List.exists_cons_of_ne_nil filled
    exact fun _ => rfl
  rw [join, if_neg (by simp [relative])]
  split
  · next ends =>
    obtain ⟨front, rfl⟩ := List.getLast?_eq_some_iff.mp (ends.resolve_left filled)
    refine ⟨Text.splitOn '/' front, starts path.text, ?_, .inr (Text.splitOn_append '/' front [])⟩
    simp only [segments, List.append_assoc, List.singleton_append]
    exact Text.splitOn_append '/' front path.text
  · exact ⟨_, starts _, Text.splitOn_append '/' text path.text, .inl rfl⟩

namespace FileTree

/-- Where one segment of a path leads from a location. -/
def moved (location : Location) (segment : Text) : Location :=
  if Path.isFiller segment then location
  else if segment = ['.', '.'] then location.dropLast
  else location ++ [segment]

/-- Where a path leads by its spelling. -/
def lexicalLocation (tree : FileTree) (path : Path) : Location :=
  path.segments.foldl moved (tree.startOf path)

variable {tree : FileTree}

/-- A segment that can be taken starts from a directory and leads where its spelling says. -/
theorem enter_eq_ok {location next : Location} {segment : Text}
    (entered : tree.enter location segment = .ok next) :
    tree.nodeAt location = some .directory ∧ moved location segment = next := by
  unfold enter at entered
  unfold moved
  split at entered
  · cases entered
  · cases entered
  · next there =>
    refine ⟨there, ?_⟩
    by_cases filler : Path.isFiller segment
    · rw [if_pos filler] at entered ⊢
      exact Except.ok.inj entered
    · rw [if_neg filler] at entered ⊢
      by_cases up : segment = ['.', '.']
      · rw [if_pos up] at entered ⊢
        exact Except.ok.inj entered
      · rw [if_neg up] at entered ⊢
        split at entered
        · cases entered
        · exact Except.ok.inj entered

theorem foldl_moved_eq_of_follow {segments : List Text} {location last : Location}
    (followed : tree.follow location segments = .ok last) :
    segments.foldl moved location = last := by
  induction segments generalizing location with
  | nil => exact Except.ok.inj followed
  | cons segment segments ih =>
    unfold follow at followed
    split at followed
    · cases followed
    · next entered =>
      rw [List.foldl_cons, (enter_eq_ok entered).2]
      exact ih followed

/-- A path leads along segments if nothing is wrong with it and they can be followed. -/
theorem locateAlong_eq_ok_iff {path : Path} {segments : List Text} {location : Location} :
    tree.locateAlong path segments = .ok location ↔
      pathFault? path = none ∧ tree.follow (tree.startOf path) segments = .ok location := by
  unfold locateAlong
  cases pathFault? path <;> simp

/-- **A path that can be followed leads where its spelling says.** -/
theorem lexicalLocation_eq {path : Path} {location : Location}
    (located : tree.locate path = .ok location) : tree.lexicalLocation path = location :=
  foldl_moved_eq_of_follow (locateAlong_eq_ok_iff.mp located).2

/-! ## Paths below a directory -/

/-- A relative path below a directory goes on from where the directory leads. -/
theorem lexicalLocation_join {base path : Path} (relative : path.isAbsolute = false) :
    tree.lexicalLocation (base.join path) =
      path.segments.foldl moved (tree.lexicalLocation base) := by
  by_cases empty : base.text = []
  · obtain ⟨_⟩ := base
    obtain rfl := empty
    rw [Path.join, if_neg (by simp [relative]), if_pos (.inl rfl)]
    show path.segments.foldl moved (tree.startOf path) = _
    rw [startOf, relative]
    rfl
  · obtain ⟨front, absolute, split, ends⟩ := Path.segments_join_relative empty relative
    have leads : front.foldl moved (tree.startOf base) = tree.lexicalLocation base := by
      rw [lexicalLocation]
      rcases ends with same | filler
      · rw [same]
      · rw [filler, List.foldl_append]
        rfl
    rw [lexicalLocation, split, List.foldl_append, startOf, absolute, ← startOf, leads]

theorem follow_append (tree : FileTree) (location : Location) (first second : List Text) :
    tree.follow location (first ++ second) =
      (tree.follow location first).bind fun middle => tree.follow middle second := by
  induction first generalizing location with
  | nil => rfl
  | cons segment first ih =>
    rw [List.cons_append, follow, follow]
    cases tree.enter location segment with
    | error fault => rfl
    | ok next => exact ih next

theorem pathFault?_of_locate {path : Path} {location : Location}
    (located : tree.locate path = .ok location) : pathFault? path = none :=
  (locateAlong_eq_ok_iff.mp located).1

theorem length_le_utf8ByteSize (text : Text) : text.length ≤ (String.ofList text).utf8ByteSize := by
  rw [String.utf8ByteSize_ofList]
  induction text with
  | nil => exact Nat.le_refl 0
  | cons c text ih => exact Nat.add_le_add ih c.utf8Size_pos

/-- A path that can be followed is short. -/
theorem length_lt_of_locate {path : Path} {location : Location}
    (located : tree.locate path = .ok location) : path.text.length < pathLimit := by
  have faultless := pathFault?_of_locate located
  by_contra long
  have tooLong := Nat.le_trans (Nat.not_lt.mp long) (length_le_utf8ByteSize path.text)
  unfold pathFault? at faultless
  rw [if_pos tooLong] at faultless
  split at faultless
  · cases faultless
  · split at faultless <;> cases faultless

/-- A filler leads nowhere else. -/
theorem eq_of_follow_filler {start location : Location} {segment : Text}
    (filler : Path.isFiller segment)
    (followed : tree.follow start [segment] = .ok location) : start = location := by
  unfold follow at followed
  split at followed
  · cases followed
  · next next entered =>
    obtain ⟨-, rfl⟩ := enter_eq_ok entered
    rw [moved, if_pos filler] at followed
    exact Except.ok.inj followed

/-- **A relative path below a directory** is followed from where the directory is. -/
theorem locate_join {base path : Path} {location : Location} (relative : path.isAbsolute = false)
    (located : tree.locate base = .ok location) (faultless : pathFault? (base.join path) = none) :
    tree.locate (base.join path) = tree.follow location path.segments := by
  obtain ⟨spelled, followed⟩ := locateAlong_eq_ok_iff.mp located
  have filled : base.text ≠ [] := by
    intro empty
    simp [pathFault?, empty] at spelled
  obtain ⟨front, absolute, split, ends⟩ := Path.segments_join_relative filled relative
  have leads : tree.follow (tree.startOf base) front = .ok location := by
    rcases ends with same | filler
    · rwa [same] at followed
    · rw [filler, follow_append] at followed
      obtain ⟨middle, before, behind⟩ := bind_eq_ok.mp followed
      rwa [eq_of_follow_filler rfl behind] at before
  rw [locate, locateAlong, faultless, split, follow_append, startOf, absolute, ← startOf, leads]
  rfl

theorem foldl_moved_of_plain {path : Path} (plain : path.isPlain) (location : Location) :
    path.segments.foldl moved location = location ++ path.segments := by
  unfold Path.isPlain at plain
  generalize path.segments = segments at plain ⊢
  induction segments generalizing location with
  | nil => exact (List.append_nil location).symm
  | cons segment segments ih =>
    obtain ⟨here, plain⟩ := Bool.and_eq_true_iff.mp plain
    have appended : moved location segment = location ++ [segment] := by
      simp only [Bool.and_eq_true, Bool.not_eq_true', decide_eq_true_eq] at here
      rw [moved, here.1, if_neg Bool.false_ne_true, if_neg here.2]
    rw [List.foldl_cons, appended, ih (location ++ [segment]) plain, List.append_assoc]
    rfl

theorem relative_of_plain {path : Path} (plain : path.isPlain) : path.isAbsolute = false := by
  obtain ⟨text⟩ := path
  cases text with
  | nil => rfl
  | cons c text =>
    refine decide_eq_false fun slash => ?_
    obtain rfl := Option.some.inj slash
    cases plain

/-- No directory of a list lies inside another. -/
def Apart (tree : FileTree) (directories : List Path) : Prop :=
  ∀ first ∈ directories, ∀ second ∈ directories,
    tree.lexicalLocation first <+: tree.lexicalLocation second →
      tree.lexicalLocation first = tree.lexicalLocation second

instance (tree : FileTree) (directories : List Path) : Decidable (tree.Apart directories) :=
  inferInstanceAs (Decidable (∀ first ∈ directories, ∀ second ∈ directories, _ → _))

/-- **Plain paths below directories that do not lie inside one another** lead to different places,
unless they are spelled alike. -/
theorem eq_of_lexicalLocation_join {directories : List Path} {base base' path path' : Path}
    (apart : tree.Apart directories) (listed : base ∈ directories) (listed' : base' ∈ directories)
    (plain : path.isPlain) (plain' : path'.isPlain)
    (same : tree.lexicalLocation (base.join path) = tree.lexicalLocation (base'.join path')) :
    path.text = path'.text := by
  rw [lexicalLocation_join (relative_of_plain plain), foldl_moved_of_plain plain,
    lexicalLocation_join (relative_of_plain plain'), foldl_moved_of_plain plain'] at same
  have bases : tree.lexicalLocation base = tree.lexicalLocation base' := by
    have below := List.prefix_append (tree.lexicalLocation base) path.segments
    have below' := List.prefix_append (tree.lexicalLocation base') path'.segments
    rcases List.prefix_or_prefix_of_prefix below (same ▸ below') with inside | inside
    · exact apart base listed base' listed' inside
    · exact (apart base' listed' base listed inside).symm
  rw [bases] at same
  exact Text.splitOn_injective '/' (List.append_cancel_left same)

end FileTree

/-! ## Leaving a directory -/

/-- How a path goes from where it starts. -/
structure Path.Route where
  /-- How many names are taken away from the place where it starts. -/
  climbs : Nat
  /-- The names that it goes into after that. -/
  names : List Text
  deriving DecidableEq, Repr

namespace Path.Route

/-- The route with one more segment. -/
def next (route : Route) (segment : Text) : Route :=
  if isFiller segment then route
  else if segment = ['.', '.'] then
    if route.names = [] then { route with climbs := route.climbs + 1 }
    else { route with names := route.names.dropLast }
  else { route with names := route.names ++ [segment] }

/-- Where a route leads. -/
def leadsTo (route : Route) (start : Location) : Location :=
  start.take (start.length - route.climbs) ++ route.names

/-- To go on by a segment is to move by it. -/
theorem leadsTo_next (route : Route) (segment : Text) (start : Location) :
    (route.next segment).leadsTo start = FileTree.moved (route.leadsTo start) segment := by
  simp only [next, FileTree.moved]
  split
  · rfl
  · split
    · split
      · next unnamed =>
        simp only [leadsTo, unnamed, List.append_nil, List.dropLast_eq_take, List.take_take,
          List.length_take]
        congr 1
        omega
      · next named =>
        rw [leadsTo, leadsTo, List.dropLast_append_of_ne_nil named]
    · rw [leadsTo, leadsTo, List.append_assoc]

/-- A route stays below its start if it comes back into the names that it has taken away. -/
theorem prefix_leadsTo_iff (route : Route) (start : Location) :
    start <+: route.leadsTo start ↔ start.drop (start.length - route.climbs) <+: route.names := by
  have cut : start <+: route.leadsTo start ↔
      start.take (start.length - route.climbs) ++ start.drop (start.length - route.climbs) <+:
        route.leadsTo start := by
    rw [List.take_append_drop]
  exact cut.trans (List.prefix_append_right_inj _)

theorem prefix_leadsTo {route : Route} (stays : route.climbs = 0) (start : Location) :
    start <+: route.leadsTo start := by
  rw [prefix_leadsTo_iff, stays, Nat.sub_zero, List.drop_length]
  exact List.nil_prefix

end Path.Route

/-- The route of a path. -/
def Path.route (path : Path) : Path.Route := path.segments.foldl Path.Route.next ⟨0, []⟩

namespace FileTree

variable {tree : FileTree} {base path : Path}

/-- A path leads below a directory. -/
def IsBelow (tree : FileTree) (base path : Path) : Prop :=
  tree.lexicalLocation base <+: tree.lexicalLocation path

instance (tree : FileTree) (base path : Path) : Decidable (tree.IsBelow base path) :=
  inferInstanceAs (Decidable (_ <+: _))

/-- Going on by segments is to go on with the route. -/
theorem foldl_moved_leadsTo (segments : List Text) (route : Path.Route) (start : Location) :
    segments.foldl moved (route.leadsTo start) =
      (segments.foldl Path.Route.next route).leadsTo start := by
  induction segments generalizing route with
  | nil => rfl
  | cons segment segments ih => rw [List.foldl_cons, List.foldl_cons, ← Path.Route.leadsTo_next, ih]

theorem foldl_moved_eq_leadsTo (path : Path) (start : Location) :
    path.segments.foldl moved start = path.route.leadsTo start := by
  have stays : Path.Route.leadsTo ⟨0, []⟩ start = start := by simp [Path.Route.leadsTo]
  rw [Path.route, ← foldl_moved_leadsTo, stays]

/-- **A path below a directory leads where its route leads from there**, or from the root if it is
absolute. -/
theorem lexicalLocation_join_eq_leadsTo (tree : FileTree) (base path : Path) :
    tree.lexicalLocation (base.join path) =
      path.route.leadsTo (if path.isAbsolute then [] else tree.lexicalLocation base) := by
  cases absolute : path.isAbsolute with
  | false =>
    rw [lexicalLocation_join absolute, foldl_moved_eq_leadsTo]
    rfl
  | true =>
    rw [Path.join, if_pos absolute, lexicalLocation, startOf, foldl_moved_eq_leadsTo, absolute]
    rfl

/-- **When a relative path stays below its directory.** -/
theorem isBelow_join_iff (relative : path.isAbsolute = false) :
    tree.IsBelow base (base.join path) ↔
      (tree.lexicalLocation base).drop ((tree.lexicalLocation base).length - path.route.climbs) <+:
        path.route.names := by
  rw [IsBelow, lexicalLocation_join_eq_leadsTo, relative]
  exact path.route.prefix_leadsTo_iff _

/-- A relative path that never takes names of its directory away stays below it. -/
theorem isBelow_join (relative : path.isAbsolute = false) (stays : path.route.climbs = 0) :
    tree.IsBelow base (base.join path) := by
  rw [IsBelow, lexicalLocation_join_eq_leadsTo, relative]
  exact Path.Route.prefix_leadsTo stays _

end FileTree

end Amalgamation
