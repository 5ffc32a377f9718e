import FullTextQuery.Host.FileTree
import Mathlib.Data.List.Induction
import Mathlib.Order.Defs.Unbundled

/-!
# Trees of files

What the operations on a tree of files do to it. A tree is closed if whatever lies in it lies in a
directory (`Closed`), and the operations keep it so. Making a directory adds one where nothing lies,
and making those around it that are missing adds these, too (`AddsDirectories`). Writing puts a file
where a path names something (`Names`), and then the path leads to it (`Names.put`). A path that
never steps up names the same whatever directories are there (`Closed.names`), so if something lies
where it would be written, it leads there before.
-/

namespace FullTextQuery.FileTree

variable {tree later : FileTree} {location other found : Location} {node : Node}

/-! ## Nodes -/

theorem lookup_filter_ne {key other : Location} (apart : other ≠ key)
    (entries : List (Location × Node)) :
    (entries.filter fun entry => entry.1 != key).lookup other = entries.lookup other := by
  induction entries with
  | nil => rfl
  | cons entry entries ih =>
    obtain ⟨place, node⟩ := entry
    rw [List.filter_cons]
    split
    case isTrue => rw [List.lookup_cons, List.lookup_cons, ih]
    case isFalse dropped =>
      have same : place = key := by simpa using dropped
      have differs : (other == place) = false := beq_false_of_ne (same ▸ apart)
      rw [List.lookup_cons, differs, ih]

theorem node?_put_self (name : location ≠ []) :
    (tree.put location node).node? location = some node := by
  have notRoot : location.isEmpty = false := List.isEmpty_eq_false_iff.mpr name
  rw [node?, if_neg (by simp [notRoot]), put, List.lookup_cons_self]

theorem node?_put_of_ne (apart : other ≠ location) :
    (tree.put location node).node? other = tree.node? other := by
  have differs : (other == location) = false := beq_false_of_ne apart
  rw [node?, node?, put, List.lookup_cons, differs, lookup_filter_ne apart]

theorem holdsDirectory_iff :
    tree.holdsDirectory location ↔ tree.node? location = some .directory := by
  unfold holdsDirectory
  cases tree.node? location with
  | none => simp
  | some node =>
    cases node with
    | file bytes => simp
    | directory => simp

theorem isSome_node?_of_holdsDirectory (holds : tree.holdsDirectory location) :
    (tree.node? location).isSome := by
  rw [holdsDirectory_iff.mp holds]
  rfl

/-! ## Following paths -/

/-- A step that names something: it is not empty, leads neither nowhere nor up, and is not too
long. -/
structure IsName (step : Text) : Prop where
  notEmpty : step ≠ []
  notHere : step ≠ Path.here
  notUp : step ≠ Path.up
  short : step.byteLength ≤ nameLimit

/-- The steps of a walk, one case for each kind of step that leads on. -/
theorem walk_cons_eq_ok {step : Text} {steps : List Text} :
    tree.walk location (step :: steps) = .ok found ↔
      tree.holdsDirectory location ∧
        ((step = [] ∨ step = Path.here) ∧ tree.walk location steps = .ok found ∨
          step = Path.up ∧ tree.walk location.dropLast steps = .ok found ∨
          IsName step ∧ (tree.node? (location ++ [step])).isSome ∧
            tree.walk (location ++ [step]) steps = .ok found) := by
  rw [walk]
  by_cases holds : tree.holdsDirectory location
  case neg => simp [holds]
  by_cases stays : step = [] ∨ step = Path.here
  case pos =>
    have notUp : step ≠ Path.up := by rcases stays with rfl | rfl <;> decide
    have noName : ¬IsName step := fun name => stays.elim name.notEmpty name.notHere
    simp [holds, stays, notUp, noName]
  rw [not_or] at stays
  by_cases isUp : step = Path.up
  case pos =>
    subst isUp
    have noName : ¬IsName Path.up := fun name => name.notUp rfl
    simp [holds, stays, noName]
  by_cases long : nameLimit < step.byteLength
  case pos =>
    have noName : ¬IsName step := fun name => Nat.not_lt.mpr name.short long
    simp [holds, stays, isUp, long, noName]
  have isName : IsName step := ⟨stays.1, stays.2, isUp, Nat.not_lt.mp long⟩
  cases present : tree.node? (location ++ [step]) with
  | none => simp [holds, stays, isUp, long]
  | some node => simp [holds, stays, isUp, long, isName]

theorem walk_append (front back : List Text) :
    tree.walk location (front ++ back) =
      (tree.walk location front).bind fun reached => tree.walk reached back := by
  induction front generalizing location with
  | nil => rfl
  | cons step front ih =>
    rw [List.cons_append, walk, walk]
    split
    · rfl
    split
    · exact ih
    split
    · exact ih
    split
    · rfl
    split
    · rfl
    · exact ih

/-- Wherever steps lead they lead in a tree that has all directories and all names of the first. -/
theorem walk_mono (directories : ∀ other, tree.holdsDirectory other → later.holdsDirectory other)
    (names : ∀ other, (tree.node? other).isSome → (later.node? other).isSome) {steps : List Text}
    (walked : tree.walk location steps = .ok found) : later.walk location steps = .ok found := by
  induction steps generalizing location with
  | nil => exact walked
  | cons step steps ih =>
    obtain ⟨holds, kind⟩ := walk_cons_eq_ok.mp walked
    refine walk_cons_eq_ok.mpr ⟨directories location holds, ?_⟩
    rcases kind with ⟨stays, onward⟩ | ⟨isUp, onward⟩ | ⟨isName, present, onward⟩
    · exact .inl ⟨stays, ih onward⟩
    · exact .inr (.inl ⟨isUp, ih onward⟩)
    · exact .inr (.inr ⟨isName, names _ present, ih onward⟩)

/-! ## Closed trees -/

/-- Whatever lies in a closed tree lies in a directory. -/
def Closed (tree : FileTree) : Prop :=
  ∀ directory name, (tree.node? (directory ++ [name])).isSome → tree.holdsDirectory directory

namespace Closed

/-- Every location on the way to something is a directory. -/
theorem holdsDirectory_of_prefix (closed : tree.Closed) {directory : Location} {last : Text}
    (within : directory <+: other) (present : (tree.node? (other ++ [last])).isSome) :
    tree.holdsDirectory directory := by
  obtain ⟨names, rfl⟩ := within
  induction names using List.reverseRecOn generalizing last with
  | nil => exact closed directory last (by simpa using present)
  | append_singleton names name ih =>
    apply ih
    rw [List.append_assoc]
    exact isSome_node?_of_holdsDirectory (closed _ last present)

/-- Steps that never go up lead to whatever lies where they lead in another tree. The induction is
on the steps; each location that they come through is on the way to what lies there. -/
theorem walk_eq_ok (closed : tree.Closed) {steps : List Text} (level : Path.up ∉ steps)
    (walked : later.walk location steps = .ok found) {last : Text}
    (present : (tree.node? (found ++ [last])).isSome) :
    location <+: found ∧ tree.walk location steps = .ok found := by
  induction steps generalizing location with
  | nil =>
    obtain rfl := Except.ok.inj walked
    exact ⟨List.prefix_refl _, rfl⟩
  | cons step steps ih =>
    rw [List.mem_cons, not_or] at level
    obtain ⟨-, kind⟩ := walk_cons_eq_ok.mp walked
    rcases kind with ⟨stays, onward⟩ | ⟨isUp, -⟩ | ⟨isName, -, onward⟩
    · obtain ⟨within, again⟩ := ih level.2 onward
      have holds := closed.holdsDirectory_of_prefix within present
      exact ⟨within, walk_cons_eq_ok.mpr ⟨holds, .inl ⟨stays, again⟩⟩⟩
    · exact absurd isUp.symm level.1
    · obtain ⟨beyond, again⟩ := ih level.2 onward
      have within := (List.prefix_append location [step]).trans beyond
      have holds := closed.holdsDirectory_of_prefix within present
      have onTheWay := closed.holdsDirectory_of_prefix beyond present
      exact ⟨within, walk_cons_eq_ok.mpr
        ⟨holds, .inr (.inr ⟨isName, isSome_node?_of_holdsDirectory onTheWay, again⟩)⟩⟩

end Closed

/-! ## The empty tree -/

theorem prefix_of_empty {current : Location} (present : ((empty current).node? location).isSome) :
    location <+: current := by
  rw [node?] at present
  split at present
  case isTrue root => exact List.isEmpty_iff.mp root ▸ List.nil_prefix
  case isFalse =>
    obtain ⟨entry, member, same⟩ := List.lookup_isSome_iff.mp present
    obtain ⟨n, -, rfl⟩ := List.mem_map.mp member
    exact eq_of_beq same ▸ List.take_prefix (n + 1) current

theorem holdsDirectory_empty {current : Location} (within : location <+: current) :
    (empty current).holdsDirectory location := by
  rw [holdsDirectory_iff, node?]
  split
  case isTrue => rfl
  case isFalse name =>
    have some : ((empty current).nodes.lookup location).isSome := by
      refine List.lookup_isSome_iff.mpr ⟨(location, .directory), ?_, beq_self_eq_true _⟩
      have long : 0 < location.length := List.length_pos_iff.mpr (mt List.isEmpty_iff.mpr name)
      have short : location.length ≤ current.length := within.length_le
      refine List.mem_map.mpr ⟨location.length - 1, List.mem_range.mpr (by omega), ?_⟩
      rw [Nat.sub_add_cancel long, ← List.prefix_iff_eq_take.mp within]
    obtain ⟨node, found⟩ := Option.isSome_iff_exists.mp some
    obtain ⟨front, back, entries, -⟩ := List.lookup_eq_some_iff.mp found
    have member : (location, node) ∈ (empty current).nodes := entries ▸ by simp
    obtain ⟨n, -, entry⟩ := List.mem_map.mp member
    rw [found, (Prod.mk.inj entry).2]

theorem closed_empty (current : Location) : (empty current).Closed := fun directory name present =>
  holdsDirectory_empty ((List.prefix_append directory [name]).trans (prefix_of_empty present))
/-! ## Putting nodes -/

theorem holdsDirectory_put (replaced : tree.holdsDirectory location = false)
    (holds : tree.holdsDirectory other) : (tree.put location node).holdsDirectory other := by
  have apart : other ≠ location := by
    rintro rfl
    rw [replaced] at holds
    cases holds
  rw [holdsDirectory, node?_put_of_ne apart]
  exact holds

theorem isSome_node?_put (name : location ≠ []) (present : (tree.node? other).isSome) :
    ((tree.put location node).node? other).isSome := by
  by_cases same : other = location
  · rw [same, node?_put_self name]
    rfl
  · rwa [node?_put_of_ne same]

theorem closed_put (closed : tree.Closed) {directory : Location} {name : Text}
    (holds : tree.holdsDirectory directory)
    (replaced : tree.holdsDirectory (directory ++ [name]) = false) :
    (tree.put (directory ++ [name]) node).Closed := by
  intro outer step present
  apply holdsDirectory_put replaced
  by_cases same : outer ++ [step] = directory ++ [name]
  · exact (List.append_inj' same rfl).1 ▸ holds
  · rw [node?_put_of_ne same] at present
    exact closed outer step present

/-! ## Placing paths -/

/-- A path whose last step names something in a directory. -/
structure Names (tree : FileTree) (path : Path) (outer : List Text) (directory : Location)
    (last : Text) : Prop where
  valid : pathError? path = none
  steps : path.steps = outer ++ [last]
  walked : tree.walk (tree.start path) outer = .ok directory
  holds : tree.holdsDirectory directory
  isName : IsName last

theorem place_eq_name {path : Path} {slashes : Bool}
    (placed : tree.place path = .ok (.name location slashes)) :
    ∃ directory last, location = directory ++ [last] ∧ tree.holdsDirectory directory ∧
      (slashes = false → ∃ outer, tree.Names path outer directory last) := by
  rw [place] at placed
  cases wrong : pathError? path with
  | some error =>
    rw [wrong] at placed
    cases placed
  | none =>
    rw [wrong] at placed
    simp only at placed
    split at placed
    · cases placed
    rename_i last outer ends
    split at placed
    · cases placed
    rename_i directory walked
    split at placed
    · cases placed
    rename_i holds
    split at placed
    · cases placed
    rename_i named
    split at placed
    · cases placed
    rename_i short
    obtain ⟨rfl, rfl⟩ := Place.name.inj (Except.ok.inj placed)
    rw [Bool.not_eq_true', Bool.not_eq_false] at holds
    refine ⟨directory, last, rfl, holds, fun noSlash => ⟨outer.reverse, ?_⟩⟩
    -- Without slashes at its end the last step of the path is the one that names something.
    have noEnding : path.steps.reverse.takeWhile List.isEmpty = [] := by simpa using noSlash
    have reversed : path.steps.reverse = last :: outer := by simpa [noEnding] using ends
    rw [reversed] at noEnding
    have notEmpty : last ≠ [] := by
      rintro rfl
      cases noEnding
    rw [not_or] at named
    exact ⟨wrong, by simpa using congrArg List.reverse reversed, walked, holds,
      notEmpty, named.1, named.2, Nat.not_lt.mp short⟩

/-- A path that names something leads to what lies there. -/
theorem Names.resolve_eq_ok {path : Path} {outer : List Text} {directory : Location} {last : Text}
    (names : tree.Names path outer directory last)
    (present : (tree.node? (directory ++ [last])).isSome) :
    tree.resolve path = .ok (directory ++ [last]) := by
  have onward : tree.walk directory [last] = .ok (directory ++ [last]) :=
    walk_cons_eq_ok.mpr ⟨names.holds, .inr (.inr ⟨names.isName, present, rfl⟩)⟩
  rw [resolve, names.valid]
  simp only
  rw [names.steps, walk_append, names.walked]
  exact onward

/-- A path still names what is put in the place that it names. -/
theorem Names.put {path : Path} {outer : List Text} {directory : Location} {last : Text}
    (names : tree.Names path outer directory last)
    (replaced : tree.holdsDirectory (directory ++ [last]) = false) :
    (tree.put (directory ++ [last]) node).Names path outer directory last where
  valid := names.valid
  steps := names.steps
  walked := walk_mono (fun _ => holdsDirectory_put replaced)
    (fun _ => isSome_node?_put (by simp)) names.walked
  holds := holdsDirectory_put replaced names.holds
  isName := names.isName

/-- A path that never steps up names the same in every closed tree where something lies there. -/
theorem Closed.names (closed : tree.Closed) (same : tree.current = later.current) {path : Path}
    {outer : List Text} {directory : Location} {last : Text}
    (names : later.Names path outer directory last) (level : Path.up ∉ path.steps)
    (present : (tree.node? (directory ++ [last])).isSome) :
    tree.Names path outer directory last := by
  have levelOuter : Path.up ∉ outer := by
    rw [names.steps, List.mem_append, not_or] at level
    exact level.1
  have walked := (closed.walk_eq_ok levelOuter names.walked present).2
  rw [start, ← same] at walked
  exact ⟨names.valid, names.steps, walked, closed directory last present, names.isName⟩

/-! ## Operations -/

theorem makeDirectory_eq_ok {path : Path} (made : tree.makeDirectory path = .ok later) :
    ∃ directory name, tree.holdsDirectory directory ∧ tree.node? (directory ++ [name]) = none ∧
      later = tree.put (directory ++ [name]) .directory := by
  rw [makeDirectory] at made
  split at made
  · cases made
  · cases made
  rename_i location slashes placed
  obtain ⟨directory, name, rfl, holds, -⟩ := place_eq_name placed
  split at made
  · cases made
  rename_i free
  exact ⟨directory, name, holds, by simpa using free, (Except.ok.inj made).symm⟩

theorem write_eq_ok {path : Path} {bytes : ByteArray}
    (written : tree.write path bytes = .ok later) :
    ∃ outer directory last, tree.Names path outer directory last ∧
      tree.holdsDirectory (directory ++ [last]) = false ∧
      later = tree.put (directory ++ [last]) (.file bytes) := by
  rw [write] at written
  split at written
  · cases written
  · cases written
  · cases written
  rename_i location placed
  obtain ⟨directory, last, rfl, holds, named⟩ := place_eq_name placed
  obtain ⟨outer, names⟩ := named rfl
  split at written
  · cases written
  rename_i noDirectory
  exact ⟨outer, directory, last, names, by simpa using noDirectory,
    (Except.ok.inj written).symm⟩

/-! ## Adding directories -/

/-- The later tree has everything that is in the first, and directories where nothing is in it. -/
structure AddsDirectories (tree later : FileTree) : Prop where
  current : later.current = tree.current
  node : ∀ location, later.node? location = tree.node? location ∨
    tree.node? location = none ∧ later.node? location = some .directory
  closed : tree.Closed → later.Closed

namespace AddsDirectories

instance : Std.Refl AddsDirectories where
  refl _ := ⟨rfl, fun _ => .inl rfl, id⟩

instance : IsTrans FileTree AddsDirectories where
  trans first second third early late := by
    refine ⟨late.current.trans early.current, fun location => ?_, late.closed ∘ early.closed⟩
    rcases late.node location with kept | ⟨free, added⟩
    · rw [kept]
      exact early.node location
    · rcases early.node location with before | ⟨-, there⟩
      · exact .inr ⟨before ▸ free, added⟩
      · rw [there] at free
        cases free

/-- A file is in both trees or in none. -/
theorem node?_eq_file {bytes : ByteArray} (adds : tree.AddsDirectories later) :
    later.node? location = some (.file bytes) ↔ tree.node? location = some (.file bytes) := by
  rcases adds.node location with kept | ⟨free, added⟩
  · rw [kept]
  · simp [free, added]

end AddsDirectories

theorem addsDirectories_makeDirectory {path : Path} (made : tree.makeDirectory path = .ok later) :
    tree.AddsDirectories later := by
  obtain ⟨directory, name, holds, free, rfl⟩ := makeDirectory_eq_ok made
  refine ⟨rfl, fun location => ?_, fun closed => closed_put closed holds ?_⟩
  · by_cases same : location = directory ++ [name]
    · refine .inr ⟨same ▸ free, ?_⟩
      rw [same, node?_put_self (by simp)]
    · exact .inl (node?_put_of_ne same)
  · rw [holdsDirectory, free]

/-! ## Actions -/

/-- Whatever tree an action starts from, the one that it leaves is related to it. -/
def Moves (relation : FileTree → FileTree → Prop) {α : Type} (action : StateM FileTree α) : Prop :=
  ∀ tree, relation tree (action tree).2

namespace Moves

variable {relation : FileTree → FileTree → Prop} {α β : Type}

theorem pure [Std.Refl relation] (value : α) : Moves relation (pure value) := fun tree =>
  Std.Refl.refl tree

theorem bind [IsTrans FileTree relation] {action : StateM FileTree α}
    {next : α → StateM FileTree β} (first : Moves relation action)
    (second : ∀ value, Moves relation (next value)) : Moves relation (action >>= next) := by
  intro tree
  have onward := second (action tree).1 (action tree).2
  exact IsTrans.trans tree _ _ (first tree) onward

end Moves

/-- Asking about a path leaves the files as they are. -/
theorem moves_isPresent (bytes : ByteArray) (path : Path) :
    Moves Eq ((host bytes).isPresent path) := fun _ => rfl

theorem moves_read (bytes : ByteArray) (path : Path) : Moves Eq ((host bytes).read path) :=
  fun _ => rfl

theorem moves_isSettled (bytes : ByteArray) (path : Path) (error : OsError) :
    Moves AddsDirectories ((host bytes).isSettled path error) := by
  unfold Host.isSettled
  split
  · exact fun tree => Std.Refl.refl tree
  · exact .pure false

/-- An operation that fails leaves the tree as it was. -/
theorem attempt_eq (operation : FileTree → Except OsError FileTree) :
    attempt operation tree =
      match operation tree with
      | .error error => (.error error, tree)
      | .ok later => (.ok (), later) := by
  have steps : attempt operation tree = (match operation tree with
    | .error error => (Pure.pure (.error error) : StateM FileTree (Except OsError Unit))
    | .ok later => set later >>= fun _ => Pure.pure (.ok ())) tree := rfl
  rw [steps]
  cases operation tree with
  | error error => rfl
  | ok later => rfl

theorem moves_makeDirectory (bytes : ByteArray) (path : Path) :
    Moves AddsDirectories ((host bytes).makeDirectory path) := by
  intro tree
  have left : (host bytes).makeDirectory path tree = _ := attempt_eq _
  rw [left]
  cases made : tree.makeDirectory path with
  | error error => exact Std.Refl.refl tree
  | ok later => exact addsDirectories_makeDirectory made

/-- Directories that each lie in the next are only added. The induction is on the chain, as the
directories around one are made when it cannot be made at once. -/
theorem moves_makeChain (bytes : ByteArray) (chain : List Path) :
    Moves AddsDirectories ((host bytes).makeChain chain) := by
  have settle (dir : Path) (error : OsError) : Moves AddsDirectories (do
      if ← (host bytes).isSettled dir error then Pure.pure (.ok ())
      else Pure.pure (.error error) : StateM FileTree (Except OsError Unit)) := by
    apply (moves_isSettled bytes dir error).bind
    intro settled
    cases settled with
    | true | false => exact .pure _
  induction chain with
  | nil => exact .pure _
  | cons dir outer ih =>
    apply (moves_makeDirectory bytes dir).bind
    intro made
    cases made with
    | ok => exact .pure _
    | error error =>
      cases error with
      | notFound =>
        apply ih.bind
        intro madeOuter
        cases madeOuter with
        | error error => exact .pure _
        | ok =>
          apply (moves_makeDirectory bytes dir).bind
          intro madeLater
          cases madeLater with
          | ok => exact .pure _
          | error error => exact settle dir error
      | notADirectory | isADirectory | fileExists | nameTooLong | nulInPath | other =>
        exact settle dir _

end FullTextQuery.FileTree
