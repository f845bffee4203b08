/-
  Mocktail.Update.ZipContainment — an extraction stays in its destination.

  A relative path that passes `IsSafeArchivePath` is a list of plain names
  (`safe_plain`), so what is created for it stands below the destination as long as there is
  no link there; and since only directories and files are created, there never is one. The
  loop keeps that the bytes written so far are at most `total`, which is at most the limit,
  and that each file created is as long as its entry declares (`FilesExact`).
-/

import Mathlib.Data.List.TakeWhile
import Mocktail.Update.ZipArchive

namespace Mocktail.Update.Zip

open Mocktail.Lib Mocktail.Launch

/-! ## Safe paths -/

theorem splitSlash_eq (s : Text) :
    splitSlash s = s.takeWhile (· ≠ slash) ::
      match s.dropWhile (· ≠ slash) with
      | [] => []
      | _ :: more => splitSlash more := by
  induction s with
  | nil => rfl
  | cons c s ih =>
    by_cases hc : c = slash
    · rw [splitSlash, if_pos hc, List.takeWhile_cons_of_neg (by simp [hc]), List.dropWhile_cons_of_neg (by simp [hc])]
    · rw [splitSlash, if_neg hc, ih, List.takeWhile_cons_of_pos (by simp [hc]), List.dropWhile_cons_of_pos (by simp [hc])]

theorem safeComponents_plain {fuel : Nat} {rest : Text} (hfuel : rest.length ≤ fuel) (h : safeComponents fuel rest = true) :
    ∀ name ∈ components rest, Plain name := by
  induction fuel generalizing rest with
  | zero =>
    rw [List.length_eq_zero_iff.mp (Nat.le_zero.mp hfuel)]
    intro name hname
    cases hname
  | succ fuel ih =>
    unfold safeComponents at h
    split at h
    · rename_i hnil
      rw [hnil]
      intro name hname
      cases hname
    · rename_i hne
      dsimp only at h
      split at h
      · -- an empty component is followed by a slash
        rename_i hbad
        simp only [Bool.decide_and, Bool.and_eq_true, decide_eq_true_eq] at h
        have hwhole := List.takeWhile_append_dropWhile (p := (· ≠ slash)) (l := rest)
        rw [h.1, h.2] at hwhole
        exact absurd hwhole.symm hne
      · rename_i hgood
        rw [not_or, not_or] at hgood
        unfold components
        rw [splitSlash_eq]
        intro name hname
        rw [List.filter_cons, if_pos (by simpa using hgood.1)] at hname
        rcases List.mem_cons.mp hname with rfl | hname
        · exact hgood
        · split at h
          · rename_i hafter
            rw [hafter] at hname
            cases hname
          · rename_i c more hafter
            rw [hafter] at hname
            have hshort : more.length ≤ fuel := by
              have hlen := congrArg List.length (List.takeWhile_append_dropWhile (p := (· ≠ slash)) (l := rest))
              rw [List.length_append, hafter, List.length_cons] at hlen
              omega
            exact ih hshort h name hname

variable {relative : Text}

theorem safe_plain (h : isSafeArchivePath relative = true) : ∀ name ∈ components relative, Plain name := by
  unfold isSafeArchivePath at h
  split at h
  · cases h
  · exact safeComponents_plain (Nat.le_refl _) h

theorem safe_components_ne (h : isSafeArchivePath relative = true) : components relative ≠ [] := by
  unfold isSafeArchivePath at h
  split at h
  · cases h
  · rename_i hok
    rw [not_or, not_or] at hok
    obtain ⟨hne, hslash, -⟩ := hok
    cases relative with
    | nil => exact absurd rfl hne
    | cons c rest =>
      have hc : c ≠ slash := fun hc => hslash (by rw [hc]; rfl)
      unfold components
      rw [splitSlash_eq, List.takeWhile_cons_of_pos (by simp [hc]), List.filter_cons, if_pos (by simp)]
      exact List.cons_ne_nil _ _

/-- A safe path is appended to the destination as it stands. -/
theorem safe_join (destination : List Name) (h : isSafeArchivePath relative = true) :
    join destination relative = destination ++ components relative := by
  unfold isSafeArchivePath at h
  split at h
  · cases h
  · rename_i hok
    rw [not_or, not_or, not_or] at hok
    obtain ⟨-, hslash, hzero, -⟩ := hok
    have hall : relative.takeWhile (· ≠ 0) = relative := by
      rw [List.takeWhile_eq_self_iff]
      intro c hc
      have hc0 : c ≠ 0 := fun h0 => hzero (by rw [← h0]; exact hc)
      simp [hc0]
    unfold join
    rw [hall, if_neg hslash]

/-! ## Steps -/

/-- The world of an extraction into `d` that began with the tree `t`. -/
structure Fine (d : Path) (t : FileTree) (w : World) : Prop where
  start : w.start = t
  confined : Confined d t w.log

theorem Fine.act {d : Path} {t : FileTree} {w : World} {e : Effect} (h : Fine d t w) (he : e.Allowed d t w.tree) :
    Fine d t (w.act e) := by
  obtain ⟨rfl, hlog⟩ := h
  exact ⟨rfl, confined_act hlog he⟩

variable {names : List Name}

theorem Fine.walk {d base : Path} {t : FileTree} {w : World} {limit : Nat} {last : Path} (h : Fine d t w)
    (hno : NoLinks d t) (hbase : walk t limit [] base = some d) (hplain : ∀ name ∈ names, Plain name)
    (hwalk : Lib.walk w.tree limit [] (base ++ names) = some last) : last = d ++ names := by
  obtain ⟨rfl, hlog⟩ := h
  exact walk_confined hlog hno hbase hplain hwalk

theorem Fine.grown {d : Path} {t : FileTree} {w : World} (h : Fine d t w) : Grown d t w.tree := by
  obtain ⟨rfl, hlog⟩ := h
  exact confined_grown hlog

/-- From one world to the next with nothing but directories added. -/
structure AddsDirectories (d : Path) (t : FileTree) (w w' : World) : Prop where
  fine : Fine d t w'
  written_eq : written w'.log = written w.log
  created_eq : created w'.log = created w.log
  keeps : ∀ q node, w.tree q = some node → w'.tree q = some node

theorem AddsDirectories.refl {d : Path} {t : FileTree} {w : World} (h : Fine d t w) : AddsDirectories d t w w :=
  ⟨h, rfl, rfl, fun _ _ h => h⟩

theorem AddsDirectories.trans {d : Path} {t : FileTree} {u v w : World} (h : AddsDirectories d t u v)
    (h' : AddsDirectories d t v w) :
    AddsDirectories d t u w :=
  ⟨h'.fine, h'.written_eq.trans h.written_eq, h'.created_eq.trans h.created_eq,
    fun q node hq => h'.keeps q node (h.keeps q node hq)⟩

variable {w w' : World} {path : Path}

section
variable {host : Host} {d : Path} {t : FileTree} {destination : List Name} {made : Bool}

theorem mkdir_adds {index : Nat} {name : Name} (hno : NoLinks d t)
    (hbase : walk t host.limit [] destination = some d) (hw : Fine d t w) (hplain : ∀ n ∈ names, Plain n)
    (h : mkdir host index (destination ++ names) name w = (made, w')) : AddsDirectories d t w w' := by
  unfold mkdir at h
  split at h
  · cases h
    exact .refl hw
  · rename_i parent hparent
    have hp := hw.walk hno hbase hplain hparent
    split at h
    · cases h
      exact .refl hw
    · split at h
      · cases h
        exact .refl hw
      · rename_i hfree
        split at h
        · cases h
          exact .refl hw
        · cases h
          subst hp
          refine ⟨hw.act ⟨⟨names ++ [name], by simp, by simp⟩, hfree⟩, by simp, by simp, ?_⟩
          intro q node hq
          have hne : q ≠ d ++ names ++ [name] := by
            intro heq
            rw [heq, hfree] at hq
            cases hq
          rw [World.act_tree]
          exact (put_other hne).trans hq

theorem createDirectories_below {index : Nat} (names : List Name) {more : List Name} (hno : NoLinks d t)
    (hbase : walk t host.limit [] destination = some d) (hw : Fine d t w) (hplain : ∀ n ∈ names ++ more, Plain n)
    (h : createDirectories host index (destination ++ names) more w = (made, w')) : AddsDirectories d t w w' := by
  induction more generalizing names w with
  | nil =>
    cases h
    exact .refl hw
  | cons name more ih =>
    have hplain' : ∀ n ∈ (names ++ [name]) ++ more, Plain n := by
      intro n hn
      exact hplain n (by simpa using hn)
    unfold createDirectories at h
    split at h
    · rw [List.append_assoc] at h
      exact ih _ hw hplain' h
    · split at h
      · rename_i w₁ hmade
        cases h
        exact mkdir_adds hno hbase hw (fun n hn => hplain n (by simp [hn])) hmade
      · rename_i w₁ hmade
        have hadds := mkdir_adds hno hbase hw (fun n hn => hplain n (by simp [hn])) hmade
        rw [List.append_assoc] at h
        exact hadds.trans (ih _ hadds.fine hplain' h)

/-- The components of the destination itself are there already. -/
theorem createDirectories_skip {index : Nat} {base more names : List Name} {w : World}
    (h : walk w.tree host.limit [] (base ++ more) = some d) :
    createDirectories host index base (more ++ names) w = createDirectories host index (base ++ more) names w := by
  induction more generalizing base with
  | nil => rw [List.nil_append, List.append_nil]
  | cons name more ih =>
    have hsplit : base ++ name :: more = (base ++ [name]) ++ more := by simp
    rw [hsplit] at h
    obtain ⟨middle, -, hmiddle, -⟩ := walk_append h
    rw [List.cons_append, createDirectories, hmiddle]
    exact (ih h).trans (by rw [hsplit])

theorem createDirectories_adds {index : Nat} (hno : NoLinks d t)
    (hbase : walk t host.limit [] destination = some d) (hw : Fine d t w) (hplain : ∀ n ∈ names, Plain n)
    (h : createDirectories host index [] (destination ++ names) w = (made, w')) : AddsDirectories d t w w' := by
  have hthere : walk w.tree host.limit [] ([] ++ destination) = some d := walk_mono (grown_keeps hw.grown) hbase
  rw [createDirectories_skip hthere, List.nil_append] at h
  exact createDirectories_below [] hno hbase hw hplain (by rw [List.append_nil]; exact h)

theorem createFile_creates {index : Nat} (hno : NoLinks d t)
    (hbase : walk t host.limit [] destination = some d) (hw : Fine d t w) (hplain : ∀ n ∈ names, Plain n) (hne : names ≠ [])
    (h : createFile host index (destination ++ names) w = some (path, w')) :
    path = d ++ names ∧ w.tree path = none ∧ w' = w.act (.create path) := by
  unfold createFile at h
  split at h
  · rename_i name parent hlast hparent
    have hdrop : (destination ++ names).dropLast = destination ++ names.dropLast := List.dropLast_append_of_ne_nil hne
    rw [hdrop] at hparent
    have hp := hw.walk hno hbase (fun n hn => hplain n (List.dropLast_subset _ hn)) hparent
    split at h
    · cases h
    · split at h
      · cases h
      · rename_i hfree
        split at h
        · cases h
        · cases h
          refine ⟨?_, hfree, rfl⟩
          have hname : names.getLast hne = name := by
            rw [List.getLast?_append_of_ne_nil _ hne, List.getLast?_eq_some_getLast hne] at hlast
            exact Option.some.inj hlast
          rw [hp, List.append_assoc, ← hname, List.dropLast_append_getLast]
  · cases h

end

/-! ## Writing -/

/-- `x` has been appended to the file at `path`, which the extraction has created. -/
structure Wrote (d : Path) (t : FileTree) (path : Path) (content x : Bytes) (w w' : World) : Prop where
  fine : Fine d t w'
  tree_eq : w'.tree path = some (.file (content ++ x))
  others : ∀ q, q ≠ path → w'.tree q = w.tree q
  written_eq : written w'.log = written w.log + x.length
  created_eq : created w'.log = created w.log

variable {content : Bytes}

theorem Wrote.nothing {d : Path} {t : FileTree} {w : World} (hw : Fine d t w)
    (hfile : w.tree path = some (.file content)) : Wrote d t path content [] w w :=
  ⟨hw, by rw [List.append_nil]; exact hfile, fun _ _ => rfl, rfl, rfl⟩

theorem Wrote.append {d : Path} {t : FileTree} {w : World} (bytes : Bytes) (hw : Fine d t w)
    (hin : Inside d path) (hnew : t path = none) (hfile : w.tree path = some (.file content)) :
    Wrote d t path content bytes w (w.act (.append path bytes)) := by
  have htree : (w.act (.append path bytes)).tree = w.tree.put path (some (.file (content ++ bytes))) := by
    simp only [World.act_tree, FileTree.apply, hfile]
  refine ⟨hw.act ⟨hin, hnew, content, hfile⟩, ?_, ?_, by simp, by simp⟩
  · rw [htree, put_same]
  · intro q hq
    rw [htree, put_other hq]

theorem Wrote.trans {d : Path} {t : FileTree} {content x y : Bytes} {u v w : World} (h : Wrote d t path content x u v)
    (h' : Wrote d t path (content ++ x) y v w) : Wrote d t path content (x ++ y) u w := by
  refine ⟨h'.fine, ?_, ?_, ?_, h'.created_eq.trans h.created_eq⟩
  · rw [h'.tree_eq, List.append_assoc]
  · intro q hq
    rw [h'.others q hq, h.others q hq]
  · rw [h'.written_eq, h.written_eq, List.length_append, Nat.add_assoc]

theorem writeBuffer_wrote {d : Path} {t : FileTree} {outcomes rest : List WriteOutcome} {bytes content : Bytes}
    {error : Option Text} (hin : Inside d path) (hnew : t path = none) (hw : Fine d t w)
    (hfile : w.tree path = some (.file content)) (h : writeBuffer path outcomes bytes w = (error, rest, w')) :
    ∃ x, Wrote d t path content x w w' ∧ x.length ≤ bytes.length ∧ (error = none → x = bytes) := by
  induction outcomes generalizing bytes content w with
  | nil =>
    unfold writeBuffer at h
    split at h
    · rename_i hempty
      cases h
      exact ⟨[], .nothing hw hfile, Nat.zero_le _, fun _ => hempty.symm⟩
    · cases h
      exact ⟨bytes, .append bytes hw hin hnew hfile, Nat.le_refl _, fun _ => rfl⟩
  | cons outcome outcomes ih =>
    unfold writeBuffer at h
    split at h
    · rename_i hempty
      cases h
      exact ⟨[], .nothing hw hfile, Nat.zero_le _, fun _ => hempty.symm⟩
    · split at h
      · rename_i count
        have hfirst := Wrote.append (bytes.take count) hw hin hnew hfile
        obtain ⟨x, hx, hlen, hall⟩ := ih hfirst.fine hfirst.tree_eq h
        refine ⟨bytes.take count ++ x, hfirst.trans hx, ?_, ?_⟩
        · rw [List.length_append]
          rw [List.length_drop] at hlen
          rw [List.length_take]
          omega
        · intro hnone
          rw [hall hnone, List.take_append_drop]
      · exact ih hw hfile h
      · cases h
        exact ⟨[], .nothing hw hfile, Nat.zero_le _, fun hnone => by cases hnone⟩

variable {r : Except Text Nat} {maximum total : Nat}

theorem writeReads_wrote {d : Path} {t : FileTree} {reads : List ReadOutcome} {outcomes : List WriteOutcome}
    {sofar : Nat} (hin : Inside d path) (hnew : t path = none)
    (hw : Fine d t w) (hfile : w.tree path = some (.file content)) (hmax : sofar ≤ maximum)
    (h : writeReads path maximum reads outcomes sofar w = (r, w')) :
    ∃ x, Wrote d t path content x w w' ∧ sofar + x.length ≤ maximum ∧ ∀ n, r = .ok n → n = sofar + x.length := by
  induction reads generalizing outcomes sofar content w with
  | nil =>
    cases h
    exact ⟨[], .nothing hw hfile, hmax, fun n hn => by cases hn; rfl⟩
  | cons read reads ih =>
    cases read with
    | failed =>
      cases h
      exact ⟨[], .nothing hw hfile, hmax, fun n hn => by cases hn⟩
    | bytes chunk =>
      unfold writeReads at h
      split at h
      · cases h
        exact ⟨[], .nothing hw hfile, hmax, fun n hn => by cases hn; rfl⟩
      · split at h
        · cases h
          exact ⟨[], .nothing hw hfile, hmax, fun n hn => by cases hn⟩
        · rename_i hroom
          split at h
          · rename_i error rest w₁ hbuffer
            cases h
            obtain ⟨x, hx, hlen, -⟩ := writeBuffer_wrote hin hnew hw hfile hbuffer
            exact ⟨x, hx, by omega, fun n hn => by cases hn⟩
          · rename_i rest w₁ hbuffer
            obtain ⟨x, hx, hlen, hall⟩ := writeBuffer_wrote hin hnew hw hfile hbuffer
            have hx' := hall rfl
            subst hx'
            obtain ⟨y, hy, hymax, hyok⟩ := ih hx.fine hx.tree_eq (by omega) h
            refine ⟨x ++ y, hx.trans hy, ?_, ?_⟩
            · rw [List.length_append]
              omega
            · intro n hn
              rw [hyok n hn, List.length_append]
              omega

theorem writeCurrent_wrote {host : Host} {pass : Pass} {index : Nat} {d : Path} {t : FileTree}
    (hin : Inside d path) (hnew : t path = none) (hw : Fine d t w) (hfile : w.tree path = some (.file []))
    (h : writeCurrent host pass index path maximum w = (r, w')) :
    ∃ x, Wrote d t path [] x w w' ∧ x.length ≤ maximum ∧ ∀ n, r = .ok n → n = x.length := by
  unfold writeCurrent at h
  split at h
  · cases h
    exact ⟨[], .nothing hw hfile, Nat.zero_le _, fun n hn => by cases hn⟩
  · split at h
    · rename_i error w₁ hreads
      cases h
      obtain ⟨x, hx, hmax, -⟩ := writeReads_wrote hin hnew hw hfile (Nat.zero_le _) hreads
      exact ⟨x, hx, by omega, fun n hn => by cases hn⟩
    · rename_i n w₁ hreads
      obtain ⟨x, hx, hmax, hok⟩ := writeReads_wrote hin hnew hw hfile (Nat.zero_le _) hreads
      split at h
      · cases h
        exact ⟨x, hx, by omega, fun n hn => by cases hn⟩
      · cases h
        refine ⟨x, hx, by omega, ?_⟩
        intro m hm
        cases hm
        rw [hok n rfl, Nat.zero_add]

/-! ## An entry -/

theorem removeFile_fine (host : Host) (index : Nat) {d : Path} {t : FileTree} {w : World} (hin : Inside d path)
    (hnew : t path = none) (hw : Fine d t w) (hfile : w.tree path = some (.file content)) :
    Fine d t (removeFile host index path w) ∧ written (removeFile host index path w).log = written w.log := by
  unfold removeFile
  split
  · exact ⟨hw, rfl⟩
  · exact ⟨hw.act ⟨hin, hnew, content, hfile⟩, by simp⟩

section
variable {host : Host} {d : Path} {t : FileTree} {destination : List Name} {pass : Pass} {index : Nat}

/-- A file that has been extracted: it is new, as long as declared, and all else is kept. -/
structure Extracted (path : Path) (size : Nat) (w w' : World) : Prop where
  created_eq : created w'.log = created w.log ++ [path]
  tree_eq : ∃ content, w'.tree path = some (.file content) ∧ content.length = size
  keeps : ∀ q node, w.tree q = some node → w'.tree q = some node
  written_eq : written w'.log = written w.log + size

variable {entry : ZipEntry}

theorem extractFile_extracted {r : Except Text Unit} (hno : NoLinks d t)
    (hbase : walk t host.limit [] destination = some d) (hw : Fine d t w) (hplain : ∀ n ∈ names, Plain n) (hne : names ≠ [])
    (h : extractFile host pass index entry (destination ++ names) w = (r, w')) :
    Fine d t w' ∧ written w'.log ≤ written w.log + entry.uncompressedSize ∧
      ∀ u, r = .ok u → Extracted (d ++ names) entry.uncompressedSize w w' := by
  have hdrop : (destination ++ names).dropLast = destination ++ names.dropLast := List.dropLast_append_of_ne_nil hne
  have hplain' : ∀ n ∈ names.dropLast, Plain n := fun n hn => hplain n (List.dropLast_subset _ hn)
  unfold extractFile at h
  rw [hdrop] at h
  split at h
  · rename_i w₁ hdirs
    cases h
    have hadds := createDirectories_adds hno hbase hw hplain' hdirs
    exact ⟨hadds.fine, by rw [hadds.written_eq]; omega, fun u hu => by cases hu⟩
  · rename_i w₁ hdirs
    have hadds := createDirectories_adds hno hbase hw hplain' hdirs
    have hsame := hadds.written_eq
    split at h
    · cases h
      exact ⟨hadds.fine, by omega, fun u hu => by cases hu⟩
    · rename_i path w₂ hfile
      obtain ⟨rfl, hfree, rfl⟩ := createFile_creates hno hbase hadds.fine hplain hne hfile
      have hin : Inside d (d ++ names) := ⟨names, hne, rfl⟩
      have hnew : t (d ++ names) = none := grown_none hadds.fine.grown hfree
      have hfine : Fine d t (w₁.act (.create (d ++ names))) := hadds.fine.act ⟨hin, hfree⟩
      have hempty : (w₁.act (.create (d ++ names))).tree (d ++ names) = some (.file []) := by
        rw [World.act_tree]
        exact put_same _ _ _
      split at h
      · rename_i error w₃ hcurrent
        cases h
        obtain ⟨x, hx, hmax, -⟩ := writeCurrent_wrote hin hnew hfine hempty hcurrent
        obtain ⟨hremoved, hlog⟩ := removeFile_fine host index hin hnew hx.fine hx.tree_eq
        have hwritten := hx.written_eq
        rw [World.act_log, written_snoc_create] at hwritten
        exact ⟨hremoved, by omega, fun u hu => by cases hu⟩
      · rename_i n w₃ hcurrent
        obtain ⟨x, hx, hmax, hok⟩ := writeCurrent_wrote hin hnew hfine hempty hcurrent
        have hn := hok n rfl
        have hwritten := hx.written_eq
        rw [World.act_log, written_snoc_create] at hwritten
        split at h
        · cases h
          obtain ⟨hremoved, hlog⟩ := removeFile_fine host index hin hnew hx.fine hx.tree_eq
          exact ⟨hremoved, by omega, fun u hu => by cases hu⟩
        · rename_i hsize
          cases h
          refine ⟨hx.fine, by omega, ?_⟩
          intro u _
          have hcreated := hx.created_eq
          rw [World.act_log, created_snoc_create, hadds.created_eq] at hcreated
          refine ⟨hcreated, ⟨x, hx.tree_eq, by omega⟩, ?_, by omega⟩
          intro q node hq
          have hq' := hadds.keeps q node hq
          have hother : q ≠ d ++ names := by
            intro heq
            rw [heq, hfree] at hq'
            cases hq'
          rw [hx.others q hother, World.act_tree]
          exact (put_other hother).trans hq'

/-- A file of an extraction is as long as the entry it was extracted from declares. -/
def FilesExact (d : Path) (archivePrefix : Text) (entries : List ZipEntry) (w : World) : Prop :=
  ∀ p ∈ created w.log, ∃ entry ∈ entries, ∃ relative, entry.name = archivePrefix ++ relative ∧ entry.directory = false ∧
    p = d ++ components relative ∧ ∃ content, w.tree p = some (.file content) ∧ content.length = entry.uncompressedSize

variable {entries : List ZipEntry} {archivePrefix : Text}

theorem FilesExact.adds (h : FilesExact d archivePrefix entries w)
    (hadds : AddsDirectories d t w w') : FilesExact d archivePrefix entries w' := by
  intro p hp
  rw [hadds.created_eq] at hp
  obtain ⟨entry, hentry, relative, hname, hdir, hpath, content, hfile, hsize⟩ := h p hp
  exact ⟨entry, hentry, relative, hname, hdir, hpath, content, hadds.keeps _ _ hfile, hsize⟩

theorem FilesExact.extracted {archivePrefix relative : Text}
    (h : FilesExact d archivePrefix entries w) (hentry : entry ∈ entries) (hname : entry.name = archivePrefix ++ relative)
    (hdir : entry.directory = false) (hnew : Extracted (d ++ components relative) entry.uncompressedSize w w') :
    FilesExact d archivePrefix entries w' := by
  intro p hp
  rw [hnew.created_eq] at hp
  rcases List.mem_append.mp hp with hp | hp
  · obtain ⟨other, hother, rel, hothername, hotherdir, hpath, content, hfile, hsize⟩ := h p hp
    exact ⟨other, hother, rel, hothername, hotherdir, hpath, content, hnew.keeps _ _ hfile, hsize⟩
  · have hp := List.mem_singleton.mp hp
    subst hp
    exact ⟨entry, hentry, relative, hname, hdir, rfl, hnew.tree_eq⟩

/-- What the loop keeps: confined, no more written than `total`, no more than the limit, all files exact. -/
structure LoopInv (d : Path) (t : FileTree) (archivePrefix : Text) (entries : List ZipEntry) (maximum total : Nat) (w : World) :
    Prop where
  fine : Fine d t w
  written_le : written w.log ≤ total
  total_le : total ≤ maximum
  exact : FilesExact d archivePrefix entries w

theorem visitEntry_inv
    {r : Except Text (Nat × Nat)} (hno : NoLinks d t) (hbase : walk t host.limit [] destination = some d)
    (hinv : LoopInv d t archivePrefix entries maximum total w) (hentry : entry ∈ entries)
    (h : visitEntry host pass index entry archivePrefix destination maximum total w = (r, w')) :
    Fine d t w' ∧ written w'.log ≤ maximum ∧
      ∀ size count, r = .ok (size, count) → LoopInv d t archivePrefix entries maximum (total + size) w' := by
  obtain ⟨hw, hwritten, htotal, hexact⟩ := hinv
  unfold visitEntry at h
  split at h
  · cases h
    exact ⟨hw, by omega, fun _ _ hr => by cases hr⟩
  · split at h
    · cases h
      exact ⟨hw, by omega, fun _ _ hr => by cases hr⟩
    · split at h
      · cases h
        exact ⟨hw, by omega, fun _ _ hr => by cases hr; exact ⟨hw, hwritten, htotal, hexact⟩⟩
      · rename_i hstarts
        dsimp only at h
        split at h
        · cases h
          exact ⟨hw, by omega, fun _ _ hr => by cases hr; exact ⟨hw, hwritten, htotal, hexact⟩⟩
        · have hname : entry.name = archivePrefix ++ entry.name.drop archivePrefix.length := by
            have hstarts : entry.name.take archivePrefix.length = archivePrefix := by simpa using hstarts
            calc entry.name
              _ = entry.name.take archivePrefix.length ++ entry.name.drop archivePrefix.length := (List.take_append_drop _ _).symm
              _ = archivePrefix ++ entry.name.drop archivePrefix.length := by rw [hstarts]
          unfold extractEntry at h
          split at h
          · cases h
            exact ⟨hw, by omega, fun _ _ hr => by cases hr⟩
          · rename_i hfit
            simp only [not_or, Bool.not_eq_false, Bool.not_eq_true] at hfit
            obtain ⟨hsafe, -, hsize, hroom⟩ := hfit
            rw [safe_join destination hsafe] at h
            split at h
            · split at h
              · rename_i w₁ hdirs
                cases h
                have hadds := createDirectories_adds hno hbase hw (safe_plain hsafe) hdirs
                exact ⟨hadds.fine, by rw [hadds.written_eq]; omega, fun _ _ hr => by cases hr⟩
              · rename_i w₁ hdirs
                cases h
                have hadds := createDirectories_adds hno hbase hw (safe_plain hsafe) hdirs
                have hsame := hadds.written_eq
                refine ⟨hadds.fine, by omega, ?_⟩
                intro size count hr
                cases hr
                exact ⟨hadds.fine, by omega, htotal, hexact.adds hadds⟩
            · rename_i hdir
              split at h
              · rename_i error w₁ hfile
                cases h
                obtain ⟨hfine, hle, -⟩ := extractFile_extracted hno hbase hw (safe_plain hsafe) (safe_components_ne hsafe) hfile
                exact ⟨hfine, by omega, fun _ _ hr => by cases hr⟩
              · rename_i u w₁ hfile
                cases h
                obtain ⟨hfine, hle, hok⟩ := extractFile_extracted hno hbase hw (safe_plain hsafe) (safe_components_ne hsafe) hfile
                refine ⟨hfine, by omega, ?_⟩
                intro size count hr
                cases hr
                exact ⟨hfine, by omega, by omega, hexact.extracted hentry hname (by simpa using hdir) (hok u rfl)⟩

theorem extractEntries_inv {entries rest : List ZipEntry} {files : Nat}
    (hno : NoLinks d t) (hbase : walk t host.limit [] destination = some d) (hsub : ∀ e ∈ rest, e ∈ entries)
    (hinv : LoopInv d t archivePrefix entries maximum total w)
    (h : extractEntries host pass archivePrefix destination maximum rest index total files w = (r, w')) :
    Fine d t w' ∧ written w'.log ≤ maximum ∧ ∀ n, r = .ok n → FilesExact d archivePrefix entries w' := by
  induction rest generalizing index total files w with
  | nil =>
    cases h
    have hle := hinv.written_le
    have hmax := hinv.total_le
    exact ⟨hinv.fine, by omega, fun _ _ => hinv.exact⟩
  | cons entry rest ih =>
    unfold extractEntries at h
    split at h
    · rename_i error w₁ hvisit
      cases h
      obtain ⟨hfine, hle, -⟩ := visitEntry_inv hno hbase hinv (hsub entry (by simp)) hvisit
      exact ⟨hfine, hle, fun _ hr => by cases hr⟩
    · rename_i size count w₁ hvisit
      obtain ⟨hfine, hle, hok⟩ := visitEntry_inv hno hbase hinv (hsub entry (by simp)) hvisit
      split at h
      · cases h
        exact ⟨hfine, hle, fun _ hr => by cases hr⟩
      · exact ih (fun e he => hsub e (by simp [he])) (hok size count rfl) h

end

/-- Whatever the archive and the kernel report, an extraction into a directory without links
    changes only what is strictly inside it, overwrites nothing and writes no more than the
    limit; if it succeeds, every file is as long as declared. -/
theorem zip_extraction_contained (host : Host) (archivePath : Text) (listing pass : Pass) (archivePrefix : Text)
    (destination : List Name) (maximumTotalBytes : Nat) {tree : FileTree} {d : Path}
    (hdestination : walk tree host.limit [] destination = some d) (hno : NoLinks d tree) {r : Except Text Nat} {w : World}
    (h : extractZipPrefix host archivePath listing pass archivePrefix destination maximumTotalBytes ⟨tree, []⟩ = (r, w)) :
    Confined d tree w.log ∧ Grown d tree w.tree ∧ written w.log ≤ maximumTotalBytes ∧
      ∀ files, r = .ok files → FilesExact d archivePrefix (listZipEntries archivePath 100000 listing).entries w := by
  have hstart : Fine d tree ⟨tree, []⟩ := ⟨rfl, always_nil _⟩
  have hall : Fine d tree w ∧ written w.log ≤ maximumTotalBytes ∧
      ∀ files, r = .ok files → FilesExact d archivePrefix (listZipEntries archivePath 100000 listing).entries w := by
    unfold extractZipPrefix at h
    dsimp only at h
    split at h
    · cases h
      exact ⟨hstart, Nat.zero_le _, fun _ hr => by cases hr⟩
    · split at h
      · cases h
        exact ⟨hstart, Nat.zero_le _, fun _ hr => by cases hr⟩
      · split at h
        · cases h
          exact ⟨hstart, Nat.zero_le _, fun _ hr => by cases hr⟩
        · refine extractEntries_inv hno hdestination (fun e he => he) ⟨hstart, Nat.le_refl _, Nat.zero_le _, ?_⟩ h
          intro p hp
          cases hp
  obtain ⟨hfine, hle, hexact⟩ := hall
  exact ⟨hfine.confined, hfine.grown, hle, hexact⟩

/-! ## A small archive -/

/-- A kernel in which nothing fails. -/
def plainHost : Host where
  limit := 40
  mkdirRefused _ _ := false
  openRefused _ := false
  writes _ := []
  removeRefused _ := false

/-- The archive of the file `a/b/c`, which holds one byte. -/
def smallArchive : Pass where
  status := .opened
  entryCount := some 1
  first := .ok
  info _ := some { name := ascii "a/b/c", uncompressedSize := 1, externalFa := 0 }
  nameRead _ := true
  next _ := false
  openCurrent _ := true
  reads _ := [.bytes [7]]
  closeCurrent _ := true

/-- The directories `/` and `/d`. -/
def smallTree : FileTree := fun p => if p = [] ∨ p = [ascii "d"] then some .directory else none

theorem zip_extraction_contained_smallArchive :
    (extractZipPrefix plainHost [] smallArchive smallArchive (ascii "a/") [ascii "d"] 1 ⟨smallTree, []⟩).2.log =
        [.mkdir [ascii "d", ascii "b"], .create [ascii "d", ascii "b", ascii "c"],
          .append [ascii "d", ascii "b", ascii "c"] [7]] ∧
      Confined [ascii "d"] smallTree
        (extractZipPrefix plainHost [] smallArchive smallArchive (ascii "a/") [ascii "d"] 1 ⟨smallTree, []⟩).2.log := by
  refine ⟨by decide +kernel, ?_⟩
  have hno : NoLinks [ascii "d"] smallTree := by
    intro p _ target
    unfold smallTree
    split
    · simp
    · simp
  exact (zip_extraction_contained plainHost [] smallArchive smallArchive (ascii "a/") [ascii "d"] 1 (by decide +kernel) hno rfl).1

end Mocktail.Update.Zip
