import Mathlib.Data.List.Nodup
import Respawn.Proofs.FileTree.Ways

/-!
# Directories that look alike

Two directories, of two trees or of one, look alike if the system gives the same answers about every
path below them. Directories without links that hold the same are alike, wherever they stand.

* `look_direct`: without links on the way, what a path leads to is what stands at its place;
* `Alike.of_same`: two places where the same stands, and no link below, look alike.
-/

namespace Respawn

namespace FileTree

/-! ## 1. Ways without links -/

/-- There is no link on the way along names from a place. -/
def Direct (t : FileTree) (here names : List String) : Prop :=
  ∀ before, before <+: names → ∀ target, t.get? (here ++ before) ≠ some (.link target)

/-- Names that lead down and are short enough to be followed. -/
def Followed (names : List String) : Prop :=
  ∀ name ∈ names, LeadsDown name ∧ name.utf8ByteSize ≤ nameLimit

theorem Direct.next {t : FileTree} {here rest : List String} {name : String}
    (h : Direct t here (name :: rest)) : Direct t (here ++ [name]) rest := by
  intro before within target
  have further := h (name :: before) (List.cons_prefix_cons.2 ⟨rfl, within⟩) target
  rwa [List.append_cons] at further

/-- What has something below it is a directory with an entry for it. -/
theorem entry_of_get? {t : FileTree} {here rest : List String} {name : String} {m : Node}
    (h : t.get? (here ++ name :: rest) = some m) :
    ∃ entries n, t.get? here = some (.dir entries) ∧ Table.get? entries name = some n := by
  rw [get?_append] at h
  obtain ⟨above, there, h⟩ := Option.bind_eq_some_iff.1 h
  cases above with
  | dir entries =>
    rw [Node.get?] at h
    obtain ⟨n, entry, -⟩ := Option.bind_eq_some_iff.1 h
    exact ⟨entries, n, there, entry⟩
  | file bytes => simp [Node.get?] at h
  | link target => simp [Node.get?] at h

/-- **Without links a way leads to what stands at its names**, as long as these can be followed. -/
theorem way_direct {t : FileTree} {aim : Aim} {links : Nat} {names : List String} {m : Node}
    (down : ∀ name ∈ names, LeadsDown name) : ∀ {here}, Direct t here names →
      ((∃ place, Way t aim links here names place ∧ t.get? place = some m) ↔
        t.get? (here ++ names) = some m ∧ Followed names) := by
  induction names with
  | nil =>
    intro here _
    constructor
    · rintro ⟨place, way, stands⟩
      cases way
      exact ⟨by rwa [List.append_nil], fun _ hm => absurd hm List.not_mem_nil⟩
    · rintro ⟨stands, -⟩
      exact ⟨here, .here, by rwa [List.append_nil] at stands⟩
  | cons name rest ih =>
    intro here direct
    have further := ih (fun n hn => down n (List.mem_cons_of_mem _ hn)) direct.next
    have leads := down name List.mem_cons_self
    have no_link {entries : Table Node} {target : String}
        (dir : t.get? here = some (.dir entries))
        (entry : Table.get? entries name = some (.link target)) : False :=
      direct [name] ⟨rest, rfl⟩ target ((get?_concat dir name).trans entry)
    constructor
    · rintro ⟨place, way, stands⟩
      cases way with
      | stay _ idle _ => exact absurd idle leads.1
      | up => exact absurd rfl leads.2
      | into dir _ short entry _ way =>
        obtain ⟨stands, followed⟩ := further.1 ⟨place, way, stands⟩
        rw [← List.append_cons] at stands
        refine ⟨stands, fun n hn => ?_⟩
        rcases List.mem_cons.1 hn with rfl | hn
        · exact ⟨leads, short⟩
        · exact followed n hn
      | follow dir _ _ entry _ _ => exact (no_link dir entry).elim
      | arrive dir _ _ entry _ => exact (no_link dir entry).elim
      | absent dir _ _ entry =>
        rw [get?_concat dir, entry] at stands
        cases stands
    · rintro ⟨stands, followed⟩
      obtain ⟨entries, n, dir, entry⟩ := entry_of_get? stands
      rw [List.append_cons] at stands
      obtain ⟨place, way, there⟩ :=
        further.2 ⟨stands, fun n hn => followed n (List.mem_cons_of_mem _ hn)⟩
      refine ⟨place, .into dir leads (followed name List.mem_cons_self).2 entry ?_ way, there⟩
      rintro target rfl
      exact no_link dir entry

/-- A path that the system follows: neither it nor one of its names is too long. -/
def Reachable (p : Path) : Prop := p.text.utf8ByteSize ≤ pathLimit ∧ Followed p.parts

instance (names : List String) : Decidable (Followed names) := List.decidableBAll _ names

instance (p : Path) : Decidable (Reachable p) := inferInstanceAs (Decidable (_ ∧ _))

section Direct

variable {t : FileTree} {p : Path} {m : Node}

/-- What stands at the place of a path, with no link on the way there, is what it leads to, and is
    what is there to be found. -/
theorem look_direct (hp : p.isAbsolute = true) (down : ∀ name ∈ p.parts, LeadsDown name)
    (direct : Direct t [] p.parts) :
    (t.lookup p = .ok m ↔ Reachable p ∧ t.get? p.parts = some m) ∧
      (t.holds p = true ↔ Reachable p ∧ (t.get? p.parts).isSome = true) := by
  have led (aim : Aim) (ha : aim ≠ .opening) (m : Node) :
      (∃ place, t.locate aim .top p = .ok place ∧ t.get? place = some m) ↔
        Reachable p ∧ t.get? p.parts = some m := by
    have straight : (∃ place, Way t aim linkLimit [] p.parts place ∧ t.get? place = some m) ↔
        t.get? p.parts = some m ∧ Followed p.parts := way_direct down direct
    constructor
    · rintro ⟨place, located, stands⟩
      obtain ⟨short, way⟩ := (locate_eq_ok hp ha).1 located
      obtain ⟨stands, followed⟩ := straight.1 ⟨place, way, stands⟩
      exact ⟨⟨short, followed⟩, stands⟩
    · rintro ⟨⟨short, followed⟩, stands⟩
      obtain ⟨place, way, stands⟩ := straight.2 ⟨stands, followed⟩
      exact ⟨place, (locate_eq_ok hp ha).2 ⟨short, way⟩, stands⟩
  constructor
  · rw [lookup_eq_ok]
    exact led .target (by decide) m
  · rw [holds_iff]
    constructor
    · rintro ⟨place, located, there⟩
      obtain ⟨n, stands⟩ := Option.isSome_iff_exists.1 there
      obtain ⟨reachable, stands⟩ := (led .entry (by decide) n).1 ⟨place, located, stands⟩
      exact ⟨reachable, Option.isSome_of_eq_some stands⟩
    · rintro ⟨reachable, there⟩
      obtain ⟨n, stands⟩ := Option.isSome_iff_exists.1 there
      obtain ⟨place, located, stands⟩ := (led .entry (by decide) n).2 ⟨reachable, stands⟩
      exact ⟨place, located, Option.isSome_of_eq_some stands⟩

end Direct

/-! ## 2. Looking alike -/

/-- The system gives the same answers below `p` in one tree and below `p'` in another one, about
    every path whose names lead down. -/
structure Alike (t : FileTree) (p : Path) (t' : FileTree) (p' : Path) : Prop where
  holds {names} (down : ∀ name ∈ names, LeadsDown name) :
    t.holds (p.below names) = t'.holds (p'.below names)
  names {names} (down : ∀ name ∈ names, LeadsDown name) :
    (t.names (p.below names)).toOption = (t'.names (p'.below names)).toOption
  isDir {names} (down : ∀ name ∈ names, LeadsDown name) :
    t.isDir (p.below names) = t'.isDir (p'.below names)
  reaches {names} (down : ∀ name ∈ names, LeadsDown name) :
    t.reaches (p.below names) = t'.reaches (p'.below names)

/-- What is asked of a path depends on what it leads to. -/
theorem Alike.of_lookup {t t' : FileTree} {p p' : Path}
    (holds : ∀ names, (∀ name ∈ names, LeadsDown name) →
      t.holds (p.below names) = t'.holds (p'.below names))
    (lookup : ∀ names, (∀ name ∈ names, LeadsDown name) →
      (t.lookup (p.below names)).toOption = (t'.lookup (p'.below names)).toOption) :
    Alike t p t' p' where
  holds down := holds _ down
  names {names} down := by
    have found := lookup names down
    unfold FileTree.names
    revert found
    cases t.lookup (p.below names) with
    | error e =>
      cases t'.lookup (p'.below names) with
      | error e' => exact fun _ => rfl
      | ok n' =>
        intro found
        cases found
    | ok n =>
      cases t'.lookup (p'.below names) with
      | error e' =>
        intro found
        cases found
      | ok n' =>
        intro found
        obtain rfl : n = n' := Option.some.inj found
        cases n <;> rfl
  isDir {names} down := by
    unfold FileTree.isDir
    rw [lookup names down]
  reaches {names} down := by
    unfold FileTree.reaches
    rw [lookup names down]

/-- A directory at its place: what stands there, without a link on the way or below, and with paths
    that the system follows as far as anything stands at them. -/
structure Stands (t : FileTree) (p : Path) (n : Node) : Prop where
  absolute : p.isAbsolute = true
  down : ∀ name ∈ p.parts, LeadsDown name
  here : t.get? p.parts = some n
  linkless : ∀ place target, n.get? place ≠ some (.link target)
  reachable : ∀ place, (n.get? place).isSome = true → Reachable (p.below place)

namespace Stands

variable {t : FileTree} {p : Path} {n : Node}

theorem get?_below (h : Stands t p n) (names : List String) :
    t.get? (p.parts ++ names) = n.get? names := by
  rw [get?_append, h.here, Option.bind_some]

theorem direct (h : Stands t p n) (names : List String) : Direct t [] (p.below names).parts := by
  intro before within target stands
  rw [List.nil_append] at stands
  obtain ⟨rest, whole⟩ := within
  rcases List.append_eq_append_iff.1 whole with ⟨more, split, -⟩ | ⟨more, rfl, -⟩
  · have here := h.here
    rw [split, get?_append, stands, Option.bind_some] at here
    cases more with
    | nil =>
      rw [Node.get?] at here
      cases here
      exact h.linkless [] target (by rw [Node.get?])
    | cons name more => simp [Node.get?] at here
  · exact h.linkless more target ((h.get?_below more).symm.trans stands)

/-- What a path below leads to, and whether anything is there. -/
theorem look (h : Stands t p n) (names : List String) (down : ∀ name ∈ names, LeadsDown name) :
    (t.lookup (p.below names)).toOption = n.get? names ∧
      t.holds (p.below names) = (n.get? names).isSome := by
  have downward : ∀ name ∈ (p.below names).parts, LeadsDown name := fun name hm =>
    (List.mem_append.1 hm).elim (h.down name) (down name)
  have looked (m : Node) := look_direct (m := m) (p := p.below names) h.absolute downward
    (h.direct names)
  have place : t.get? (p.below names).parts = n.get? names := h.get?_below names
  rw [place] at looked
  constructor
  · refine Option.ext fun m => ?_
    have answered : (t.lookup (p.below names)).toOption = some m ↔
        t.lookup (p.below names) = .ok m := by
      cases t.lookup (p.below names) <;> simp [Except.toOption]
    rw [answered, (looked m).1]
    exact ⟨And.right, fun at_ => ⟨h.reachable names (Option.isSome_of_eq_some at_), at_⟩⟩
  · refine Bool.eq_iff_iff.2 ((looked n).2.trans ?_)
    exact ⟨And.right, fun there => ⟨h.reachable names there, there⟩⟩

end Stands

/-- **Where the same stands, and no link below, everything looks alike.** -/
theorem Alike.of_same {t t' : FileTree} {p p' : Path} {n : Node} (h : Stands t p n)
    (h' : Stands t' p' n) : Alike t p t' p' := by
  refine .of_lookup (fun names down => ?_) fun names down => ?_
  · rw [(h.look names down).2, (h'.look names down).2]
  · rw [(h.look names down).1, (h'.look names down).1]

/-! ## 3. Lanes -/

/-- One directory in the other, and an empty file at the end. -/
def lane : List String → Node
  | [] => .file []
  | name :: rest => .dir [(name, lane rest)]

/-- What stands in a lane stands along it. -/
theorem get?_lane {names : List String} : ∀ {place m}, (lane names).get? place = some m →
    ∃ rest, names = place ++ rest ∧ m = lane rest := by
  induction names with
  | nil =>
    intro place m h
    cases place with
    | nil =>
      rw [Node.get?] at h
      cases h
      exact ⟨[], rfl, rfl⟩
    | cons name place => simp [lane, Node.get?] at h
  | cons name rest ih =>
    intro place m h
    cases place with
    | nil =>
      rw [Node.get?] at h
      cases h
      exact ⟨name :: rest, rfl, rfl⟩
    | cons other place =>
      rw [lane, Node.get?] at h
      obtain ⟨n, entry, h⟩ := Option.bind_eq_some_iff.1 h
      rw [Table.get?_cons, Table.get?_nil] at entry
      split at entry
      · next same =>
        cases entry
        obtain ⟨rest', rfl, rfl⟩ := ih h
        exact ⟨rest', same ▸ rfl, rfl⟩
      · cases entry

theorem get?_lane_append (names rest : List String) :
    (lane (names ++ rest)).get? names = some (lane rest) := by
  induction names with
  | nil => rw [List.nil_append, Node.get?]
  | cons name names ih =>
    rw [List.cons_append, lane, Node.get?, Table.get?_cons, if_pos rfl, Option.bind_some, ih]

/-- A directory of a lane has one entry. -/
theorem exists_names_lane {names place : List String} {entries : Table Node}
    (h : FileTree.get? ⟨lane names⟩ place = some (.dir entries)) :
    ∃ name ∈ names, Table.names entries = [name] := by
  obtain ⟨rest, rfl, dir⟩ := get?_lane h
  cases rest with
  | nil => cases dir
  | cons name rest =>
    cases dir
    exact ⟨name, List.mem_append_right _ List.mem_cons_self, rfl⟩

theorem tame_lane {held : String → Prop} {names : List String} (h : ∀ name ∈ names, held name) :
    Tame held ⟨lane names⟩ := by
  intro place entries dir
  obtain ⟨name, hm, only⟩ := exists_names_lane dir
  rw [only]
  exact fun n hn => List.mem_singleton.1 hn ▸ h name hm

theorem proper_lane {names : List String} (down : ∀ name ∈ names, LeadsDown name)
    (utterable : ∀ name ∈ names, Utterable name) : Proper ⟨lane names⟩ where
  distinct place entries dir := by
    obtain ⟨name, -, only⟩ := exists_names_lane dir
    rw [only]
    exact List.nodup_singleton name
  down := tame_lane down
  utterable := tame_lane utterable

theorem stands_lane {p : Path} {rest : List String} (hp : p.isAbsolute = true)
    (down : ∀ name ∈ p.parts, LeadsDown name)
    (reachable : ∀ place, place <+: rest → Reachable (p.below place)) :
    Stands ⟨lane (p.parts ++ rest)⟩ p (lane rest) where
  absolute := hp
  down := down
  here := get?_lane_append p.parts rest
  linkless place target h := by
    obtain ⟨rest', -, link⟩ := get?_lane h
    cases rest' <;> cases link
  reachable place there := by
    obtain ⟨m, h⟩ := Option.isSome_iff_exists.1 there
    obtain ⟨rest', rfl, -⟩ := get?_lane h
    exact reachable place ⟨rest', rfl⟩

/-- A path stands in the lane along its names. -/
theorem holds_lane {p : Path} (hp : p.isAbsolute = true) (down : ∀ name ∈ p.parts, LeadsDown name)
    (reachable : Reachable p) : FileTree.holds ⟨lane p.parts⟩ p = true := by
  have stands : Stands ⟨lane (p.parts ++ [])⟩ p (lane []) :=
    stands_lane hp down fun place within => by rwa [List.prefix_nil.1 within, Path.below_nil]
  have looked := (stands.look [] nofun).2
  rwa [List.append_nil, Path.below_nil] at looked

end FileTree

end Respawn
