import Respawn.FileTree
import Respawn.Text.Surrogate

/-!
# Ways through a tree

Following a path is a walk from place to place, with a kind of step for each thing that a name can
be: nothing to do, the way up, a file or a directory, a link that is followed or arrived at, or a
name that is not there.

* `locateFrom_eq_ok`: a path is located where a way leads;
* `Way.split`: a way through several names passes a directory wherever it is cut;
* `isDir_of_holds_child`: what a path has above it are directories;
* `Way.tame`: no way leads through a name that stands nowhere in the tree.
-/

namespace Respawn

/-! ## 1. Places -/

namespace Path

/-- The path that names lead to from another one. -/
def below (p : Path) (names : List String) : Path := ⟨p.anchor, p.parts ++ names⟩

@[simp] theorem below_nil (p : Path) : p.below [] = p := by
  unfold below
  rw [List.append_nil]

theorem below_append (p : Path) (names more : List String) :
    p.below (names ++ more) = (p.below names).below more := by
  unfold below
  rw [List.append_assoc]

theorem below_concat (p : Path) (names : List String) (name : String) :
    p.below (names ++ [name]) = (p.below names).child name := p.below_append names [name]

theorem below_cons (p : Path) (name : String) (names : List String) :
    p.below (name :: names) = (p.child name).below names := p.below_append [name] names

theorem below_inj {p : Path} {names more : List String} (h : p.below names = p.below more) :
    names = more := List.append_cancel_left (congrArg Path.parts h)

/-- A path as it is written: no name of it is empty or a single dot, and none holds a slash. -/
def Written (p : Path) : Prop :=
  ∀ name ∈ p.parts, ¬ (name = "" ∨ name = ".") ∧ '/' ∉ name.toList

theorem written_ofText (s : String) : (ofText s).Written := by
  intro name hm
  obtain ⟨segment, hs, rfl⟩ := List.mem_map.1 hm
  obtain ⟨piece, named⟩ := List.mem_filter.1 hs
  unfold isName at named
  rw [Bool.and_eq_true, decide_eq_true_eq, decide_eq_true_eq] at named
  constructor
  · rintro (none | dot)
    · exact named.1 (String.ofList_inj.1 none)
    · exact named.2 (String.ofList_inj.1 dot)
  · rw [String.toList_ofList]
    exact Text.not_mem_of_mem_splitOn piece

theorem Written.absolute {base p : Path} (hb : base.Written) (hp : p.Written) :
    (base.absolute p).Written := fun name hm => (mem_absolute hm).elim (hb name) (hp name)

end Path

theorem Node.get?_append (place more : List String) :
    ∀ n : Node, n.get? (place ++ more) = (n.get? place).bind fun m => m.get? more := by
  induction place with
  | nil => exact fun _ => rfl
  | cons name rest ih =>
    intro n
    cases n with
    | dir entries =>
      rw [List.cons_append, Node.get?, Node.get?, Option.bind_assoc]
      exact Option.bind_congr fun m _ => ih m
    | file bytes => simp [Node.get?]
    | link target => simp [Node.get?]

namespace FileTree

theorem get?_append (t : FileTree) (place more : List String) :
    t.get? (place ++ more) = (t.get? place).bind fun m => m.get? more :=
  Node.get?_append place more t.top

/-- What stands below a directory is one of its entries. -/
theorem get?_concat {t : FileTree} {here : List String} {entries : Table Node}
    (dir : t.get? here = some (.dir entries)) (name : String) :
    t.get? (here ++ [name]) = entries.get? name := by
  rw [get?_append, dir, Option.bind_some, Node.get?]
  cases Table.get? entries name with
  | none => rfl
  | some n => rw [Option.bind_some, Node.get?]

/-! ## 2. Ways -/

/-- A name that leads down. -/
def LeadsDown (name : String) : Prop := ¬ (name = "" ∨ name = ".") ∧ name ≠ ".."

instance (name : String) : Decidable (LeadsDown name) := inferInstanceAs (Decidable (_ ∧ _))

/-- Whether a link with the names `rest` to come is the entry that was to be found. -/
def isArrival (aim : Aim) (rest : List String) : Bool := rest.isEmpty && decide (aim = .entry)

/-- The way from one place to another along names, with at most so many links to follow. -/
inductive Way (t : FileTree) (aim : Aim) : Nat → List String → List String → List String → Prop
  | here {links here} : Way t aim links here [] here
  | stay {links here name rest place entries} (dir : t.get? here = some (.dir entries))
      (idle : name = "" ∨ name = ".") (way : Way t aim links here rest place) :
      Way t aim links here (name :: rest) place
  | up {links here rest place entries} (dir : t.get? here = some (.dir entries))
      (way : Way t aim links here.dropLast rest place) : Way t aim links here (".." :: rest) place
  | into {links here name rest place entries n} (dir : t.get? here = some (.dir entries))
      (down : LeadsDown name) (short : name.utf8ByteSize ≤ nameLimit)
      (entry : Table.get? entries name = some n) (real : ∀ target, n ≠ .link target)
      (way : Way t aim links (here ++ [name]) rest place) :
      Way t aim links here (name :: rest) place
  | follow {links here name rest place entries target} (dir : t.get? here = some (.dir entries))
      (down : LeadsDown name) (short : name.utf8ByteSize ≤ nameLimit)
      (entry : Table.get? entries name = some (.link target))
      (through : isArrival aim rest = false)
      (way : Way t aim links (if target.startsWith "/" then [] else here)
        (targetSegments target ++ rest) place) :
      Way t aim (links + 1) here (name :: rest) place
  | arrive {links here name entries target} (dir : t.get? here = some (.dir entries))
      (down : LeadsDown name) (short : name.utf8ByteSize ≤ nameLimit)
      (entry : Table.get? entries name = some (.link target)) (sought : aim = .entry) :
      Way t aim links here [name] (here ++ [name])
  | absent {links here name entries} (dir : t.get? here = some (.dir entries))
      (down : LeadsDown name) (short : name.utf8ByteSize ≤ nameLimit)
      (entry : Table.get? entries name = none) : Way t aim links here [name] (here ++ [name])

variable {t : FileTree} {aim : Aim} {links : Nat} {here rest todo place : List String}
  {name target : String} {entries : Table Node}

theorem Way.of_locateFrom (ha : aim ≠ .opening) :
    ∀ {links here todo}, t.locateFrom aim links here todo = .ok place →
      Way t aim links here todo place := by
  intro links here todo
  induction links, here, todo using locateFrom.induct t aim with
  | case1 links here =>
    intro h
    rw [locateFrom] at h
    cases h
    exact .here
  | case2 links here name rest entries dir idle ih =>
    intro h
    simp only [locateFrom, dir, if_pos idle] at h
    exact .stay dir idle (ih h)
  | case3 links here rest entries dir idle ih =>
    intro h
    simp only [locateFrom, dir, if_neg idle, if_true] at h
    exact .up dir (ih h)
  | case4 links here name rest entries dir idle up opening => exact absurd opening.1 ha
  | case5 links here name rest entries dir idle up opening long =>
    intro h
    simp [locateFrom, dir, idle, up, opening, long] at h
  | case6 links here name rest entries dir idle up opening long entry last =>
    intro h
    obtain rfl := List.isEmpty_iff.1 last
    simp only [locateFrom, dir, if_neg idle, if_neg up, if_neg opening, if_neg long, entry, last,
      if_true] at h
    cases h
    exact .absent dir ⟨idle, up⟩ (Nat.le_of_not_lt long) entry
  | case7 links here name rest entries dir idle up opening long entry last =>
    intro h
    simp [locateFrom, dir, idle, up, opening, long, entry, last] at h
  | case8 links here name rest entries dir idle up opening long target entry arrival =>
    intro h
    obtain ⟨last, sought⟩ := Bool.and_eq_true_iff.1 arrival
    obtain rfl := List.isEmpty_iff.1 last
    simp only [locateFrom, dir, if_neg idle, if_neg up, if_neg opening, if_neg long, entry, arrival,
      if_true] at h
    cases h
    exact .arrive dir ⟨idle, up⟩ (Nat.le_of_not_lt long) entry (of_decide_eq_true sought)
  | case9 here name rest entries dir idle up opening long target entry arrival =>
    intro h
    simp [locateFrom, dir, idle, up, opening, long, entry, arrival] at h
  | case10 here name rest entries dir idle up opening long target entry arrival links start ih =>
    intro h
    simp only [locateFrom, dir, if_neg idle, if_neg up, if_neg opening, if_neg long, entry,
      if_neg arrival] at h
    exact .follow dir ⟨idle, up⟩ (Nat.le_of_not_lt long) entry (Bool.eq_false_iff.2 arrival) (ih h)
  | case11 links here name rest entries dir idle up opening long n real entry ih =>
    intro h
    cases n with
    | link target => exact absurd rfl (real target)
    | file bytes =>
      simp only [locateFrom, dir, if_neg idle, if_neg up, if_neg opening, if_neg long, entry] at h
      exact .into dir ⟨idle, up⟩ (Nat.le_of_not_lt long) entry nofun (ih h)
    | dir below =>
      simp only [locateFrom, dir, if_neg idle, if_neg up, if_neg opening, if_neg long, entry] at h
      exact .into dir ⟨idle, up⟩ (Nat.le_of_not_lt long) entry nofun (ih h)
  | case12 links here name rest n other dir =>
    intro h
    cases n with
    | dir entries => exact absurd rfl (other entries)
    | file bytes => simp [locateFrom, dir] at h
    | link target => simp [locateFrom, dir] at h
  | case13 links here name rest none =>
    intro h
    simp [locateFrom, none] at h

theorem Way.locateFrom_eq (ha : aim ≠ .opening) (h : Way t aim links here todo place) :
    t.locateFrom aim links here todo = .ok place := by
  induction h with
  | here => rw [locateFrom]
  | stay dir idle way ih => simp only [locateFrom, dir, if_pos idle, ih]
  | up dir way ih => simp [locateFrom, dir, ih]
  | @into links here name rest place entries n dir down short entry real way ih =>
    have long : ¬ nameLimit < name.utf8ByteSize := Nat.not_lt_of_le short
    cases n with
    | link target => exact absurd rfl (real target)
    | file bytes => simp [locateFrom, dir, down.1, down.2, ha, long, entry, ih]
    | dir below => simp [locateFrom, dir, down.1, down.2, ha, long, entry, ih]
  | @follow links here name rest place entries target dir down short entry through way ih =>
    have long : ¬ nameLimit < name.utf8ByteSize := Nat.not_lt_of_le short
    have opening : ¬ (aim = .opening ∧ rest = [""]) := fun h => ha h.1
    unfold isArrival at through
    simp only [locateFrom, dir, if_neg down.1, if_neg down.2, if_neg opening, if_neg long, entry,
      through, Bool.false_eq_true, if_false]
    exact ih
  | @arrive links here name entries target dir down short entry sought =>
    have long : ¬ nameLimit < name.utf8ByteSize := Nat.not_lt_of_le short
    simp [locateFrom, dir, down.1, down.2, long, entry, sought]
  | @absent links here name entries dir down short entry =>
    have long : ¬ nameLimit < name.utf8ByteSize := Nat.not_lt_of_le short
    simp [locateFrom, dir, down.1, down.2, ha, long, entry]

/-- **A path is located where a way leads.** -/
theorem locateFrom_eq_ok (ha : aim ≠ .opening) :
    t.locateFrom aim links here todo = .ok place ↔ Way t aim links here todo place :=
  ⟨.of_locateFrom ha, fun h => h.locateFrom_eq ha⟩

/-- Names are followed in a directory. -/
theorem Way.dir (h : Way t aim links here (name :: rest) place) :
    ∃ entries, t.get? here = some (.dir entries) := by
  cases h with
  | stay dir _ _ | up dir _ | into dir _ _ _ _ _ | follow dir _ _ _ _ _ | arrive dir _ _ _ _
  | absent dir _ _ _ => exact ⟨_, dir⟩

/-- A way that is cut in a directory: the way up to there, and the way on from there. -/
def Cut (t : FileTree) (links : Nat) (here xs ys place : List String) : Prop :=
  ∃ links' mid entries, Way t .target links here xs mid ∧ t.get? mid = some (.dir entries) ∧
    Way t .entry links' mid ys place

/-- Before the first name a way is cut where it begins. -/
theorem Way.cut {xs ys : List String} (hy : ys ≠ [])
    (h : Way t .entry links here (xs ++ ys) place)
    (later : ∀ first rest, xs = first :: rest → Cut t links here xs ys place) :
    Cut t links here xs ys place := by
  cases xs with
  | cons first rest => exact later first rest rfl
  | nil =>
    cases ys with
    | nil => exact absurd rfl hy
    | cons name rest =>
      obtain ⟨entries, dir⟩ := h.dir
      exact ⟨links, here, entries, .here, dir, h⟩

/-- **A way through several names passes a directory wherever it is cut.** -/
theorem Way.split {xs ys : List String} (h : Way t .entry links here (xs ++ ys) place)
    (hy : ys ≠ []) : Cut t links here xs ys place := by
  refine h.cut hy fun first rest hx => ?_
  subst hx
  generalize htodo : first :: rest ++ ys = todo at h
  induction h generalizing first rest with
  | here => cases htodo
  | stay dir idle way ih =>
    obtain ⟨rfl, rfl⟩ := List.cons.inj htodo
    obtain ⟨links', mid, below, before, there, after⟩ :=
      way.cut hy fun next more hx => hx ▸ ih next more (hx ▸ rfl)
    exact ⟨links', mid, below, .stay dir idle before, there, after⟩
  | up dir way ih =>
    obtain ⟨rfl, rfl⟩ := List.cons.inj htodo
    obtain ⟨links', mid, below, before, there, after⟩ :=
      way.cut hy fun next more hx => hx ▸ ih next more (hx ▸ rfl)
    exact ⟨links', mid, below, .up dir before, there, after⟩
  | into dir down short entry real way ih =>
    obtain ⟨rfl, rfl⟩ := List.cons.inj htodo
    obtain ⟨links', mid, below, before, there, after⟩ :=
      way.cut hy fun next more hx => hx ▸ ih next more (hx ▸ rfl)
    exact ⟨links', mid, below, .into dir down short entry real before, there, after⟩
  | @follow links here name _ place entries target dir down short entry through way ih =>
    obtain ⟨rfl, rfl⟩ := List.cons.inj htodo
    -- what the link's target adds belongs to the way before the cut
    have regrouped := List.append_assoc (targetSegments target) rest ys
    obtain ⟨links', mid, below, before, there, after⟩ :=
      (regrouped.symm ▸ way).cut hy fun next more hx => hx ▸ ih next more (hx ▸ regrouped)
    exact ⟨links', mid, below, .follow dir down short entry (Bool.and_false _) before, there, after⟩
  | arrive dir down short entry sought =>
    obtain ⟨-, nothing⟩ := List.cons.inj htodo
    exact absurd (List.append_eq_nil_iff.1 nothing).2 hy
  | absent dir down short entry =>
    obtain ⟨-, nothing⟩ := List.cons.inj htodo
    exact absurd (List.append_eq_nil_iff.1 nothing).2 hy

/-- What a path leads to leaves an entry to be found there. -/
theorem Way.entry (h : Way t .target links here todo place)
    (stands : (t.get? place).isSome = true) :
    ∃ place', Way t .entry links here todo place' ∧ (t.get? place').isSome = true := by
  induction h with
  | here => exact ⟨_, .here, stands⟩
  | stay dir idle way ih =>
    obtain ⟨place', way, there⟩ := ih stands
    exact ⟨place', .stay dir idle way, there⟩
  | up dir way ih =>
    obtain ⟨place', way, there⟩ := ih stands
    exact ⟨place', .up dir way, there⟩
  | into dir down short entry real way ih =>
    obtain ⟨place', way, there⟩ := ih stands
    exact ⟨place', .into dir down short entry real way, there⟩
  | @follow links here name rest place entries target dir down short entry through way ih =>
    cases rest with
    | nil =>
      refine ⟨here ++ [name], .arrive dir down short entry rfl, ?_⟩
      rw [get?_concat dir, entry]
      rfl
    | cons next rest =>
      obtain ⟨place', way, there⟩ := ih stands
      exact ⟨place', .follow dir down short entry rfl way, there⟩
  | arrive dir down short entry sought => cases sought
  | absent dir down short entry => exact ⟨_, .absent dir down short entry, stands⟩

/-! ## 3. Names that stand in a tree -/

/-- Of every name in every directory `p` is true. -/
def Tame (p : String → Prop) (t : FileTree) : Prop :=
  ∀ place entries, t.get? place = some (.dir entries) → ∀ name ∈ Table.names entries, p name

/-- A name that the system takes. -/
structure Utterable (name : String) : Prop where
  whole : '\x00' ∉ name.toList
  bytes : Text.hasBytes name.toList = true

instance (name : String) : Decidable (Utterable name) :=
  decidable_of_iff ('\x00' ∉ name.toList ∧ Text.hasBytes name.toList = true)
    ⟨fun h => ⟨h.1, h.2⟩, fun h => ⟨h.whole, h.bytes⟩⟩

/-- What the system sees to: no directory has a name twice, and every name in a directory leads down
    and is one that the system takes. -/
structure Proper (t : FileTree) : Prop where
  distinct : ∀ place entries, t.get? place = some (.dir entries) → (Table.names entries).Nodup
  down : Tame LeadsDown t
  utterable : Tame Utterable t

theorem mem_names_of_entry {n : Node} (entry : Table.get? entries name = some n) :
    name ∈ Table.names entries := by
  refine (Table.has_iff_mem_names _ _).1 ?_
  unfold Table.has
  rw [entry]
  rfl

theorem Tame.of_entry {p : String → Prop} (ht : Tame p t)
    (dir : t.get? here = some (.dir entries)) {n : Node}
    (entry : Table.get? entries name = some n) : p name :=
  ht here entries dir name (mem_names_of_entry entry)

/-- **No way leads to anything through a name that stands nowhere in the tree**, unless the name
    leads nowhere down. -/
theorem Way.tame {p : String → Prop} (ht : Tame p t) (h : Way t aim links here todo place)
    (stands : (t.get? place).isSome = true) : ∀ name ∈ todo, LeadsDown name → p name := by
  induction h with
  | here => exact fun _ hm => absurd hm List.not_mem_nil
  | stay dir idle way ih =>
    intro name hm down
    rcases List.mem_cons.1 hm with rfl | hm
    · exact absurd idle down.1
    · exact ih stands name hm down
  | up dir way ih =>
    intro name hm down
    rcases List.mem_cons.1 hm with rfl | hm
    · exact absurd rfl down.2
    · exact ih stands name hm down
  | into dir down short entry real way ih =>
    intro name hm hd
    rcases List.mem_cons.1 hm with rfl | hm
    · exact ht.of_entry dir entry
    · exact ih stands name hm hd
  | follow dir down short entry through way ih =>
    intro name hm hd
    rcases List.mem_cons.1 hm with rfl | hm
    · exact ht.of_entry dir entry
    · exact ih stands name (List.mem_append_right _ hm) hd
  | arrive dir down short entry sought =>
    intro name hm _
    rw [List.mem_singleton.1 hm]
    exact ht.of_entry dir entry
  | absent dir down short entry =>
    rw [get?_concat dir, entry] at stands
    cases stands

/-! ## 4. Paths -/

section Paths

variable {q : Path} {n : Node}

/-- Where a path is located. -/
theorem locate_eq_ok (hq : q.isAbsolute = true) (ha : aim ≠ .opening) :
    t.locate aim .top q = .ok place ↔
      q.text.utf8ByteSize ≤ pathLimit ∧ Way t aim linkLimit [] q.parts place := by
  unfold locate
  rw [Path.within_of_absolute hq]
  by_cases long : pathLimit < q.text.utf8ByteSize
  · simp [long, Nat.not_le_of_lt long]
  · rw [if_neg long, locateFrom_eq_ok ha]
    exact ⟨fun way => ⟨Nat.le_of_not_lt long, way⟩, And.right⟩

theorem holds_iff : t.holds q = true ↔
    ∃ place, t.locate .entry .top q = .ok place ∧ (t.get? place).isSome = true := by
  unfold holds
  cases t.locate .entry .top q with
  | error e => simp
  | ok place => simp

theorem lookup_eq_ok : t.lookup q = .ok n ↔
    ∃ place, t.locate .target .top q = .ok place ∧ t.get? place = some n := by
  unfold lookup lookupFrom
  cases t.locate .target .top q with
  | error e => simp
  | ok place => cases hn : t.get? place <;> simp [hn]

/-- What a path leads to is there to be found. -/
theorem holds_of_lookup (hq : q.isAbsolute = true) (h : t.lookup q = .ok n) : t.holds q = true := by
  obtain ⟨place, located, stands⟩ := lookup_eq_ok.1 h
  obtain ⟨short, way⟩ := (locate_eq_ok hq (by decide)).1 located
  obtain ⟨place', way, there⟩ := way.entry (Option.isSome_of_eq_some stands)
  exact holds_iff.2 ⟨place', (locate_eq_ok hq (by decide)).2 ⟨short, way⟩, there⟩

theorem holds_of_isDir (hq : q.isAbsolute = true) (h : t.isDir q = true) : t.holds q = true := by
  obtain ⟨entries, found⟩ := lookup_of_isDir h
  exact holds_of_lookup hq found

theorem isDir_of_names {names : List String} (h : t.names q = .ok names) : t.isDir q = true := by
  unfold FileTree.names at h
  unfold isDir
  split at h
  · next found => rw [found]; rfl
  · cases h
  · cases h

/-- The text of a path goes on in the texts of the paths below it. -/
theorem exists_text_below (hq : q.isAbsolute = true) (names : List String) :
    ∃ more, (q.below names).text = q.text ++ more := by
  have rooted : q.anchor ≠ .relative := of_decide_eq_true hq
  unfold Path.text Path.below
  rw [if_neg fun h => rooted h.1, if_neg fun h => rooted h.1]
  by_cases top : q.parts = []
  · rw [top, String.intercalate_nil, List.nil_append, String.append_empty]
    exact ⟨_, rfl⟩
  by_cases none : names = []
  · rw [none, List.append_nil]
    exact ⟨"", String.append_empty.symm⟩
  · rw [String.intercalate_append_of_ne_nil top none]
    exact ⟨"/" ++ "/".intercalate names, by simp only [String.append_assoc]⟩

/-- A path is no longer than one with a name more. -/
theorem size_le_child (hq : q.isAbsolute = true) (name : String) :
    q.text.utf8ByteSize ≤ (q.child name).text.utf8ByteSize := by
  obtain ⟨more, text⟩ := exists_text_below hq [name]
  have child : (q.child name).text = q.text ++ more := text
  rw [child, String.utf8ByteSize_append]
  exact Nat.le_add_right _ _

/-- What stands one name below a path is found from a directory that the path leads to. -/
theorem last_of_holds_child (hq : q.isAbsolute = true) (h : t.holds (q.child name) = true) :
    ∃ entries links mid place, t.lookup q = .ok (.dir entries) ∧
      t.get? mid = some (.dir entries) ∧ Way t .entry links mid [name] place ∧
      (t.get? place).isSome = true := by
  obtain ⟨place, located, stands⟩ := holds_iff.1 h
  obtain ⟨short, way⟩ := (locate_eq_ok (q := q.child name) hq (by decide)).1 located
  have cut : Cut t linkLimit [] q.parts [name] place := way.split (List.cons_ne_nil name [])
  obtain ⟨links, mid, entries, before, dir, last⟩ := cut
  have found := lookup_eq_ok.2
    ⟨mid, (locate_eq_ok hq (by decide)).2 ⟨Nat.le_trans (size_le_child hq name) short, before⟩, dir⟩
  exact ⟨entries, links, mid, place, found, dir, last, stands⟩

/-- **What a path has above it are directories.** -/
theorem isDir_of_holds_child (hq : q.isAbsolute = true) (h : t.holds (q.child name) = true) :
    t.isDir q = true := by
  obtain ⟨entries, -, -, -, found, -⟩ := last_of_holds_child hq h
  unfold isDir
  rw [found]
  rfl

/-- **What stands one name below a path is listed there**, if the name leads down. -/
theorem mem_names_of_holds_child (hq : q.isAbsolute = true) (down : LeadsDown name)
    (h : t.holds (q.child name) = true) : ∃ names, t.names q = .ok names ∧ name ∈ names := by
  obtain ⟨entries, links, mid, place, found, dir, last, stands⟩ := last_of_holds_child hq h
  have opened : t.names q = .ok (Table.names entries) := by
    unfold FileTree.names
    rw [found]
  refine ⟨_, opened, ?_⟩
  cases last with
  | stay _ idle _ => exact absurd idle down.1
  | up _ _ => exact absurd rfl down.2
  | into here _ _ entry _ _ =>
    cases dir.symm.trans here
    exact mem_names_of_entry entry
  | follow _ _ _ _ through _ => cases through
  | arrive here _ _ entry _ =>
    cases dir.symm.trans here
    exact mem_names_of_entry entry
  | absent here _ _ entry =>
    rw [get?_concat here, entry] at stands
    cases stands

/-- What is there is reached through names that stand in the tree, unless they lead nowhere down. -/
theorem tame_of_holds {p : String → Prop} (ht : Tame p t) (hq : q.isAbsolute = true)
    (h : t.holds q = true) : ∀ name ∈ q.parts, LeadsDown name → p name := by
  obtain ⟨place, located, stands⟩ := holds_iff.1 h
  exact ((locate_eq_ok hq (by decide)).1 located).2.tame ht stands

theorem hasBytes_intercalate {parts : List String}
    (h : ∀ name ∈ parts, Text.hasBytes name.toList = true) :
    Text.hasBytes ("/".intercalate parts).toList = true := by
  induction parts with
  | nil => rfl
  | cons name rest ih =>
    have here := h name List.mem_cons_self
    have later := ih fun other hm => h other (List.mem_cons_of_mem _ hm)
    cases rest with
    | nil => rwa [String.intercalate_singleton]
    | cons next rest =>
      rw [String.intercalate_cons_cons, String.toList_append, String.toList_append]
      unfold Text.hasBytes at here later ⊢
      rw [List.all_append, List.all_append, here, later]
      rfl

/-- **A path at which something stands is one that the system takes.** -/
theorem Proper.utterable_of_holds (ht : t.Proper) (hq : q.isAbsolute = true)
    (h : t.holds q = true) : q.isAskable = true ∧ Text.hasBytes q.text.toList = true := by
  have parts : ∀ name ∈ q.parts, Utterable name := by
    intro name hm
    by_cases down : LeadsDown name
    · exact tame_of_holds ht.utterable hq h name hm down
    · unfold LeadsDown at down
      have dots : (name = "" ∨ name = ".") ∨ name = ".." := by
        rcases Decidable.not_and_iff_or_not.1 down with idle | up
        · exact .inl (Decidable.not_not.1 idle)
        · exact .inr (Decidable.not_not.1 up)
      rcases dots with (rfl | rfl) | rfl <;> decide
  constructor
  · unfold Path.isAskable
    refine List.all_eq_true.2 fun name hm => ?_
    rw [String.contains_char_eq, decide_eq_false (parts name hm).whole]
    rfl
  · have rooted : q.anchor ≠ .relative := of_decide_eq_true hq
    have names := hasBytes_intercalate fun name hm => (parts name hm).bytes
    have anchored : Text.hasBytes q.anchor.text.toList = true := by
      cases q.anchor <;> decide
    unfold Path.text
    rw [if_neg fun h => rooted h.1, String.toList_append]
    unfold Text.hasBytes at names anchored ⊢
    rw [List.all_append, anchored, names]
    rfl

end Paths

end FileTree

end Respawn
