/-
  Mocktail.Lib.FileTree — file trees with symbolic links, and changes confined to a directory.

  A tree says what stands at each absolute path without links. `walk` resolves a path as the
  kernel does: `.` and empty components stay, `..` goes up, a link is replaced by its target.
  `limit` bounds the steps of one resolution, in the place of the kernel's own bounds.

  A `World` is the tree a process began with and the log of what it has done since.
  `Confined d t log` says that every change of the log was made strictly inside `d`, that
  nothing was created where something stood, and that only files the log created were
  written or removed. A confined log plants no link (`confined_grown`), so names without `.`
  and `..` that begin in `d` stay in `d` (`walk_inside`).
-/

import Mocktail.Lib.Chunks
import Mocktail.Lib.Trace

namespace Mocktail.Lib

abbrev Name := List UInt8
abbrev Path := List Name

inductive Node where
  | directory
  | file (content : Bytes)
  | link (target : Bytes)
  deriving DecidableEq, Repr

abbrev FileTree := Path → Option Node

/-! ## Components -/

def slash : UInt8 := 0x2f
def dot : Name := [0x2e]
def dotDot : Name := [0x2e, 0x2e]

/-- The pieces between the slashes. -/
def splitSlash : Bytes → List Name
  | [] => [[]]
  | c :: s =>
    if c = slash then [] :: splitSlash s
    else
      match splitSlash s with
      | [] => [[c]]
      | name :: names => (c :: name) :: names

def components (s : Bytes) : List Name := (splitSlash s).filter (· ≠ [])

/-- A name that stands for itself. -/
def Plain (name : Name) : Prop := name ≠ [] ∧ name ≠ dot ∧ name ≠ dotDot

/-! ## Resolution -/

def walk (t : FileTree) : Nat → Path → List Name → Option Path
  | _, here, [] => some here
  | 0, _, _ :: _ => none
  | limit + 1, here, name :: names =>
    if name = [] ∨ name = dot then walk t limit here names
    else if name = dotDot then walk t limit here.dropLast names
    else
      match t (here ++ [name]) with
      | some .directory => walk t limit (here ++ [name]) names
      | some (.link target) =>
        walk t limit (if target.head? = some slash then [] else here) (components target ++ names)
      | some (.file _) => none
      | none => none

variable {limit : Nat} {more names : List Name} {here last p : Path}

/-- A path is resolved by resolving its beginning first. -/
theorem walk_append {t : FileTree}
    (h : walk t limit here (names ++ more) = some last) :
    ∃ middle limit', walk t limit here names = some middle ∧ walk t limit' middle more = some last := by
  induction limit generalizing here names with
  | zero =>
    cases names with
    | nil => exact ⟨here, 0, rfl, h⟩
    | cons name names => cases h
  | succ limit ih =>
    cases names with
    | nil => exact ⟨here, limit + 1, rfl, h⟩
    | cons name names =>
      rw [List.cons_append, walk] at h
      rw [walk]
      split at h
      · rename_i hstay
        rw [if_pos hstay]
        exact ih h
      · rename_i hstay
        rw [if_neg hstay]
        split at h
        · rename_i hup
          rw [if_pos hup]
          exact ih h
        · rename_i hup
          rw [if_neg hup]
          split at h
          · exact ih h
          · rw [← List.append_assoc] at h
            exact ih h
          · cases h
          · cases h

/-- What is only added to a tree changes no resolution that succeeded. -/
theorem walk_mono {t t' : FileTree} (hgrow : ∀ p node, t p = some node → t' p = some node)
    (h : walk t limit here names = some last) : walk t' limit here names = some last := by
  induction limit generalizing here names with
  | zero =>
    cases names with
    | nil => exact h
    | cons name names => cases h
  | succ limit ih =>
    cases names with
    | nil => exact h
    | cons name names =>
      rw [walk] at h ⊢
      split at h
      · rename_i hstay
        rw [if_pos hstay]
        exact ih h
      · rename_i hstay
        rw [if_neg hstay]
        split at h
        · rename_i hup
          rw [if_pos hup]
          exact ih h
        · rename_i hup
          rw [if_neg hup]
          split at h
          · rename_i hnode
            rw [hgrow _ _ hnode]
            exact ih h
          · rename_i target hnode
            rw [hgrow _ _ hnode]
            exact ih h
          · cases h
          · cases h

/-! ## Strictly inside a directory -/

def Inside (d p : Path) : Prop := ∃ names, names ≠ [] ∧ p = d ++ names

def NoLinks (d : Path) (t : FileTree) : Prop := ∀ p, Inside d p → ∀ target, t p ≠ some (.link target)

variable {d : Path}

/-- Plain names that begin in a directory without links stay in it. -/
theorem walk_inside {t : FileTree} (hno : NoLinks d t) (names : List Name)
    (hplain : ∀ name ∈ more, Plain name) (h : walk t limit (d ++ names) more = some last) : last = d ++ names ++ more := by
  induction limit generalizing names more with
  | zero =>
    cases more with
    | nil =>
      cases h
      rw [List.append_nil]
    | cons name more => cases h
  | succ limit ih =>
    cases more with
    | nil =>
      cases h
      rw [List.append_nil]
    | cons name more =>
      obtain ⟨hempty, hdot, hdotDot⟩ := hplain name (by simp)
      rw [walk, if_neg (by simp [hempty, hdot]), if_neg hdotDot] at h
      split at h
      · rw [List.append_assoc] at h
        rw [ih _ (fun m hm => hplain m (by simp [hm])) h]
        simp
      · rename_i target hnode
        exact absurd hnode (hno _ ⟨names ++ [name], by simp, by simp⟩ target)
      · cases h
      · cases h

/-! ## Changes -/

inductive Effect where
  | mkdir (path : Path)
  | create (path : Path)
  | append (path : Path) (bytes : Bytes)
  | remove (path : Path)
  deriving DecidableEq, Repr

def FileTree.put (t : FileTree) (p : Path) (node : Option Node) : FileTree := fun q => if q = p then node else t q

def FileTree.apply (t : FileTree) : Effect → FileTree
  | .mkdir p => t.put p (some .directory)
  | .create p => t.put p (some (.file []))
  | .append p bytes =>
    match t p with
    | some (.file content) => t.put p (some (.file (content ++ bytes)))
    | _ => t
  | .remove p => t.put p none

structure World where
  start : FileTree
  log : List Effect

def World.tree (w : World) : FileTree := w.log.foldl FileTree.apply w.start

def World.act (w : World) (e : Effect) : World := { w with log := w.log ++ [e] }

@[simp] theorem World.act_start (w : World) (e : Effect) : (w.act e).start = w.start := rfl
@[simp] theorem World.act_log (w : World) (e : Effect) : (w.act e).log = w.log ++ [e] := rfl

@[simp] theorem World.act_tree (w : World) (e : Effect) : (w.act e).tree = w.tree.apply e := by
  simp [World.tree, World.act, List.foldl_append]

theorem put_same (t : FileTree) (p : Path) (node : Option Node) : t.put p node p = node := by simp [FileTree.put]

theorem put_other {t : FileTree} {q : Path} {node : Option Node} (h : q ≠ p) : t.put p node q = t q := by simp [FileTree.put, h]

/-- What may be done inside `d`, for a process that began with the tree `t`. -/
def Effect.Allowed (d : Path) (t now : FileTree) : Effect → Prop
  | .mkdir p => Inside d p ∧ now p = none
  | .create p => Inside d p ∧ now p = none
  | .append p _ => Inside d p ∧ t p = none ∧ ∃ content, now p = some (.file content)
  | .remove p => Inside d p ∧ t p = none ∧ ∃ content, now p = some (.file content)

def Confined (d : Path) (t : FileTree) (log : List Effect) : Prop :=
  Always (fun pre e => e.Allowed d t (pre.foldl FileTree.apply t)) log

variable {w : World}

theorem confined_act {e : Effect} (h : Confined d w.start w.log) (he : e.Allowed d w.start w.tree) :
    Confined d (w.act e).start (w.act e).log :=
  always_snoc.mpr ⟨h, he⟩

/-- Where a tree differs from the one it began with, something new that is no link stands
    strictly inside `d`, or nothing again. -/
def Grown (d : Path) (t now : FileTree) : Prop :=
  ∀ p, now p = t p ∨ Inside d p ∧ t p = none ∧ ∀ target, now p ≠ some (.link target)

variable {t now : FileTree}

theorem grown_put {d : Path} {node : Option Node} (h : Grown d t now) (hp : Inside d p) (ht : t p = none)
    (hnode : ∀ target, node ≠ some (.link target)) : Grown d t (now.put p node) := by
  intro q
  by_cases hq : q = p
  · subst hq
    rw [put_same]
    exact .inr ⟨hp, ht, hnode⟩
  · rw [put_other hq]
    exact h q

theorem grown_none {d : Path} (h : Grown d t now) (hp : now p = none) : t p = none := by
  rcases h p with heq | ⟨-, ht, -⟩
  · rw [← heq]
    exact hp
  · exact ht

theorem grown_apply {e : Effect} (h : Grown d t now) (he : e.Allowed d t now) :
    Grown d t (now.apply e) := by
  cases e with
  | mkdir p | create p => exact grown_put h he.1 (grown_none h he.2) (by simp)
  | append p bytes =>
    obtain ⟨hp, ht, content, hnow⟩ := he
    simp only [FileTree.apply, hnow]
    exact grown_put h hp ht (by simp)
  | remove p => exact grown_put h he.1 he.2.1 (by simp)

theorem confined_grown (h : Confined d w.start w.log) : Grown d w.start w.tree := by
  obtain ⟨start, log⟩ := w
  induction log using List.reverseRecOn with
  | nil => exact fun p => .inl rfl
  | append_singleton log e ih =>
    obtain ⟨hpre, he⟩ := always_snoc.mp h
    have hgrown := grown_apply (ih hpre) he
    simpa [World.tree, List.foldl_append] using hgrown

theorem grown_noLinks (h : Grown d t now) (hno : NoLinks d t) : NoLinks d now := by
  intro p hp target
  rcases h p with heq | ⟨-, -, hnew⟩
  · rw [heq]
    exact hno p hp target
  · exact hnew target

theorem grown_keeps (h : Grown d t now) : ∀ p node, t p = some node → now p = some node := by
  intro p node hp
  rcases h p with heq | ⟨-, hnone, -⟩
  · rw [heq]
    exact hp
  · rw [hnone] at hp
    cases hp

/-- A path that begins at the directory and goes on with plain names, in a world whose log is confined. -/
theorem walk_confined {d base : Path} (hlog : Confined d w.start w.log)
    (hno : NoLinks d w.start) (hbase : walk w.start limit [] base = some d) (hplain : ∀ name ∈ names, Plain name)
    (h : walk w.tree limit [] (base ++ names) = some last) : last = d ++ names := by
  have hgrown := confined_grown hlog
  obtain ⟨middle, limit', hmiddle, hrest⟩ := walk_append h
  rw [walk_mono (grown_keeps hgrown) hbase] at hmiddle
  cases hmiddle
  have hlast := walk_inside (grown_noLinks hgrown hno) [] hplain (by rw [List.append_nil]; exact hrest)
  rw [hlast, List.append_nil]

/-- The bytes a log has written. -/
def written (log : List Effect) : Nat :=
  (log.map fun e => match e with
    | .append _ bytes => bytes.length
    | _ => 0).sum

/-- The files a log has created. -/
def created (log : List Effect) : List Path :=
  log.filterMap fun e => match e with
    | .create p => some p
    | _ => none

@[simp] theorem written_snoc_append (log : List Effect) (p : Path) (bytes : Bytes) :
    written (log ++ [.append p bytes]) = written log + bytes.length := by simp [written]

@[simp] theorem written_snoc_mkdir (log : List Effect) (p : Path) : written (log ++ [.mkdir p]) = written log := by simp [written]
@[simp] theorem written_snoc_create (log : List Effect) (p : Path) : written (log ++ [.create p]) = written log := by
  simp [written]
@[simp] theorem written_snoc_remove (log : List Effect) (p : Path) : written (log ++ [.remove p]) = written log := by
  simp [written]

@[simp] theorem created_snoc_append (log : List Effect) (p : Path) (bytes : Bytes) :
    created (log ++ [.append p bytes]) = created log := by simp [created]

@[simp] theorem created_snoc_mkdir (log : List Effect) (p : Path) : created (log ++ [.mkdir p]) = created log := by simp [created]
@[simp] theorem created_snoc_create (log : List Effect) (p : Path) : created (log ++ [.create p]) = created log ++ [p] := by
  simp [created]

end Mocktail.Lib
