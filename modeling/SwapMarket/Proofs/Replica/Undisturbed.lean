import SwapMarket.Proofs.Disk
import SwapMarket.Proofs.Path
import SwapMarket.Replica.Store
import Mathlib.Data.List.Induction
import Mathlib.Data.List.Sort

/-!
# Replicas among other files

On a disk that **`IsTree`**, whatever there is lies in folders. There the answers of replicas do not
hang on folders that are new and on files without the extension of replicas: placing such a file
leaves the disk **`Undisturbed`** (`undisturbed_place`), a tree on which every query of replicas
has the answer that it had before.
-/

namespace SwapMarket

namespace Disk

/-- Whatever there is lies in folders, under names that things can have. -/
structure IsTree (d : Disk) : Prop where
  /-- The names can be given. -/
  names : ∀ l e, d.find? l = some e → ∀ k ∈ l, Path.IsPlain k ∧ Path.isName k = true
  /-- Whatever is above is a folder. -/
  folders : ∀ l e, d.find? l = some e → ∀ a ∈ above l, d.find? a = some .folder

variable {d d' : Disk} {l f : Location} {e : Entry} {n : String}

/-- In a tree the way to a folder is open. -/
theorem IsTree.isBlocked_of_isFolder (h : d.IsTree) (hf : d.isFolder f = true) :
    d.isBlocked f = false := by
  have hfound : d.find? f = some .folder := beq_iff_eq.1 hf
  rw [isBlocked_eq_false_iff]
  intro a ha
  refine .inr ⟨h.folders f _ hfound a ha, fun k hk => ?_⟩
  exact (h.names f _ hfound k (head?_drop_mem hk)).2

/-! ## What is in a folder -/

/-- The name of a location in a folder, if it is there. -/
def nameIn (f m : Location) : Option String := if m.dropLast = f then m.getLast? else none

/-- What is in a folder is one name below it. -/
theorem nameIn_eq_some_iff {m : Location} : nameIn f m = some n ↔ m = f ++ [n] := by
  unfold nameIn
  constructor
  · intro h
    simp only [Option.ite_none_right_eq_some] at h
    obtain ⟨rfl, hlast⟩ := h
    obtain ⟨ks, rfl⟩ := List.getLast?_eq_some_iff.1 hlast
    rw [List.dropLast_concat]
  · rintro rfl
    rw [List.dropLast_concat, if_pos rfl, List.getLast?_concat]

/-- The names in a folder are those of what is listed there, in order. -/
theorem names_eq (d : Disk) (f : Location) :
    d.names f = (d.entries.filterMap fun e => nameIn f e.1).mergeSort fun a b => a ≤ b := rfl

/-- A name is in a folder exactly if something is listed there under it. -/
theorem mem_names : n ∈ d.names f ↔ ∃ e, (f ++ [n], e) ∈ d.entries := by
  rw [names_eq, List.mem_mergeSort, List.mem_filterMap]
  constructor
  · rintro ⟨⟨m, e⟩, hm, hn⟩
    obtain rfl := nameIn_eq_some_iff.1 hn
    exact ⟨e, hm⟩
  · rintro ⟨e, he⟩
    exact ⟨_, he, nameIn_eq_some_iff.2 rfl⟩

/-- What is listed is found. -/
theorem exists_find? {m : Location} (hm : (m, e) ∈ d.entries) : ∃ e', d.find? m = some e' := by
  unfold find?
  split
  · exact ⟨_, rfl⟩
  · have hs : (d.entries.find? fun x => x.1 == m).isSome = true := by
      rw [List.find?_isSome]
      exact ⟨_, hm, beq_self_eq_true m⟩
    obtain ⟨x, hx⟩ := Option.isSome_iff_exists.1 hs
    exact ⟨x.2, by rw [hx]; rfl⟩

/-- Whether a name in a folder may be that of a replica. -/
def mayBeReplica (d : Disk) (f : Location) (n : String) : Bool :=
  Path.hasExtension replicaExtension n && !d.isFolder (f ++ [n])

/-- The names in a folder that may be those of replicas. -/
def replicaNames (d : Disk) (f : Location) : List String := (d.names f).filter (d.mayBeReplica f)

/-- A replica has a name with the right extension, and is no folder. -/
theorem mem_replicaNames : n ∈ d.replicaNames f ↔
    n ∈ d.names f ∧ Path.hasExtension replicaExtension n = true ∧
      d.find? (f ++ [n]) ≠ some .folder := by
  unfold replicaNames mayBeReplica isFolder
  simp only [List.mem_filter, Bool.and_eq_true, Bool.not_eq_true', beq_eq_false_iff_ne]

/-- What is in a folder of a tree has a name, and the folder is there. -/
theorem IsTree.of_mem_names (h : d.IsTree) (hn : n ∈ d.names f) :
    Path.IsPlain n ∧ d.find? f = some .folder := by
  obtain ⟨e, he⟩ := mem_names.1 hn
  obtain ⟨e', he'⟩ := exists_find? he
  refine ⟨(h.names _ _ he' n (by simp)).1, h.folders _ _ he' f ?_⟩
  exact mem_above_concat.2 (.inr rfl)

/-- The replicas of a network are the names in its folder that may be those of replicas. -/
theorem IsTree.netidReplicas_eq (h : d.IsTree) (s : Settings) (netid : Nat) :
    netidReplicas s d netid =
      if Path.isNameable (s.netidFolder netid) then
        (d.replicaNames (Path.components (s.netidFolder netid))).map
          (Path.join (s.netidFolder netid))
      else [] := by
  unfold netidReplicas
  simp only
  cases hn : Path.isNameable (s.netidFolder netid) with
  | false => rfl
  | true =>
    cases hf : d.isFolder (Path.components (s.netidFolder netid)) with
    | true =>
      rw [h.isBlocked_of_isFolder hf]
      rfl
    | false =>
      -- Nothing is in what is no folder.
      have hnone : d.replicaNames (Path.components (s.netidFolder netid)) = [] := by
        rw [List.eq_nil_iff_forall_not_mem]
        intro k hk
        have hfolder := (h.of_mem_names (mem_replicaNames.1 hk).1).2
        rw [isFolder, hfolder] at hf
        cases hf
      rw [hnone]
      simp

/-! ## Setting one entry -/

/-- A tree with something new in a folder is a tree. -/
theorem IsTree.set (h : d.IsTree) (hn : ∀ k ∈ l, Path.IsPlain k ∧ Path.isName k = true)
    (ha : ∀ a ∈ above l, d.find? a = some .folder) (hf : d.find? l ≠ some .folder) :
    (d.set l e).IsTree := by
  have hl : l ≠ [] := by
    rintro rfl
    exact hf rfl
  have hkeep : ∀ a, d.find? a = some .folder → (d.set l e).find? a = some .folder := by
    intro a hfa
    have hne : a ≠ l := by
      rintro rfl
      exact hf hfa
    rw [find?_set d hl, if_neg hne, hfa]
  constructor
  · intro m e' hm
    rw [find?_set d hl] at hm
    split at hm
    · next he =>
      rw [he]
      exact hn
    · exact h.names m e' hm
  · intro m e' hm a hma
    rw [find?_set d hl] at hm
    split at hm
    · next he =>
      rw [he] at hma
      exact hkeep a (ha a hma)
    · exact hkeep a (h.folders m e' hm a hma)

/-- The entry that is set is new and a folder, or has not the extension of replicas. -/
def SparesReplicas (d : Disk) (l : Location) (e : Entry) : Prop :=
  (e = .folder ∧ d.find? l = none) ∨
    ∀ k, l.getLast? = some k → Path.hasExtension replicaExtension k = false

/-- What spares the replicas is in the place of none. -/
theorem SparesReplicas.ne (hx : d.SparesReplicas l e) (hn : n ∈ d.replicaNames f) :
    f ++ [n] ≠ l := by
  rintro rfl
  obtain ⟨hmem, hext, -⟩ := mem_replicaNames.1 hn
  rcases hx with ⟨-, hnone⟩ | hx
  · obtain ⟨e', he'⟩ := mem_names.1 hmem
    obtain ⟨e'', he''⟩ := exists_find? he'
    rw [hnone] at he''
    cases he''
  · have := hx n (by simp)
    rw [hext] at this
    cases this

/-- What is left of names in order are the left names in order. -/
theorem filter_mergeSort_names (p : String → Bool) (ns : List String) :
    (ns.mergeSort fun a b => a ≤ b).filter p = (ns.filter p).mergeSort fun a b => a ≤ b := by
  have sorted : ∀ xs : List String,
      (xs.mergeSort fun a b => a ≤ b).Pairwise fun a b => decide (a ≤ b) = true := by
    intro xs
    refine List.pairwise_mergeSort ?_ ?_ xs
    · intro a b c hab hbc
      exact decide_eq_true (String.le_trans (of_decide_eq_true hab) (of_decide_eq_true hbc))
    · intro a b
      simpa using String.le_total a b
  refine List.Perm.eq_of_pairwise ?_ ((sorted ns).sublist List.filter_sublist)
    (sorted (ns.filter p)) ?_
  · intro a b _ _ hab hba
    exact String.le_antisymm (of_decide_eq_true hab) (of_decide_eq_true hba)
  · exact ((List.mergeSort_perm ns _).filter p).trans (List.mergeSort_perm (ns.filter p) _).symm

/-- What is set can be no replica afterwards, and what was there before could be none. -/
theorem SparesReplicas.mayBeReplica_self (hx : d.SparesReplicas (f ++ [n]) e) :
    (d.set (f ++ [n]) e).mayBeReplica f n = false ∧
      ((∃ e', (f ++ [n], e') ∈ d.entries) → d.mayBeReplica f n = false) := by
  unfold mayBeReplica
  rcases hx with ⟨rfl, hnone⟩ | hx
  · refine ⟨?_, ?_⟩
    · have hfolder : (d.set (f ++ [n]) .folder).isFolder (f ++ [n]) = true := by
        rw [isFolder, find?_set d (by simp), if_pos rfl]
        rfl
      rw [hfolder, Bool.not_true, Bool.and_false]
    · rintro ⟨e', he'⟩
      obtain ⟨e'', he''⟩ := exists_find? he'
      rw [hnone] at he''
      cases he''
  · rw [hx n (by simp)]
    exact ⟨rfl, fun _ => rfl⟩

/-- Only in its own place may a new entry be a replica. -/
theorem mayBeReplica_set_of_ne (hl : l ≠ []) (hne : f ++ [n] ≠ l) :
    (d.set l e).mayBeReplica f n = d.mayBeReplica f n := by
  unfold mayBeReplica isFolder
  rw [find?_set d hl, if_neg hne]

/-- Setting such an entry leaves the names that may be those of replicas as they are. -/
theorem SparesReplicas.replicaNames_set (hx : d.SparesReplicas l e) (hl : l ≠ []) :
    (d.set l e).replicaNames f = d.replicaNames f := by
  have hhead : (nameIn f l).filter ((d.set l e).mayBeReplica f) = none := by
    rw [Option.filter_eq_none_iff]
    intro k hk
    obtain rfl := nameIn_eq_some_iff.1 hk
    rw [hx.mayBeReplica_self.1]
    exact Bool.false_ne_true
  have htail : ∀ x ∈ d.entries,
      (if (x.1 != l) = true then (nameIn f x.1).filter ((d.set l e).mayBeReplica f) else none)
        = (nameIn f x.1).filter (d.mayBeReplica f) := by
    rintro ⟨m, e'⟩ hm
    cases hk : nameIn f m with
    | none => simp
    | some k =>
      obtain rfl := nameIn_eq_some_iff.1 hk
      by_cases hne : f ++ [k] = l
      · subst hne
        have hnot := hx.mayBeReplica_self.2 ⟨e', hm⟩
        simp [Option.filter, hnot]
      · simp only [bne_iff_ne, ne_eq, hne, not_false_iff, if_pos, Option.filter,
          mayBeReplica_set_of_ne hl hne]
  unfold replicaNames
  rw [names_eq, names_eq, filter_mergeSort_names, filter_mergeSort_names]
  refine congrArg (fun ns => List.mergeSort ns _) ?_
  show List.filter _ (List.filterMap _ ((l, e) :: d.entries.filter fun x => x.1 != l)) = _
  rw [List.filter_filterMap, List.filter_filterMap, List.filterMap_cons, List.filterMap_filter,
    hhead]
  exact List.filterMap_congr htail

end Disk

/-! ## Answers -/

/-- Every query of replicas has the same answer on two disks. -/
def Disk.AnswersAlike (d d' : Disk) : Prop :=
  ∀ s n q, queryReplicas s d' n q = queryReplicas s d n q

/-- Answers hang on the entries of the files that are asked. -/
theorem queryFiles_congr {d d' : Disk} {ps : List String}
    (h : ∀ p ∈ ps, d'.find? (Path.components p) = d.find? (Path.components p)) (q : ReplicaQuery) :
    queryFiles d' q ps = queryFiles d q ps := by
  induction ps with
  | nil => rfl
  | cons p ps ih =>
    obtain ⟨hp, hps⟩ := List.forall_mem_cons.1 h
    unfold queryFiles queryFile
    rw [hp, ih hps]

namespace Disk

variable {d d' : Disk} {l f : Location} {e : Entry} {n : String}

/-- Something new that spares the replicas changes no answer. -/
theorem IsTree.answersAlike_set (h : d.IsTree) (h' : (d.set l e).IsTree)
    (hx : d.SparesReplicas l e) (hl : l ≠ []) : d.AnswersAlike (d.set l e) := by
  have hfiles : ∀ s netid, netidReplicas s (d.set l e) netid = netidReplicas s d netid := by
    intro s netid
    rw [h.netidReplicas_eq, h'.netidReplicas_eq, hx.replicaNames_set hl]
  intro s ns q
  have hreplicas : replicaFiles s (d.set l e) ns = replicaFiles s d ns := by
    unfold replicaFiles
    exact congrArg (fun g => (ns.netids s).flatMap g) (funext (hfiles s))
  unfold queryReplicas
  rw [hreplicas]
  refine congrArg (Except.map Swap.merge) (queryFiles_congr (fun p hp => ?_) q)
  obtain ⟨netid, -, hp⟩ := List.mem_flatMap.1 hp
  rw [h.netidReplicas_eq] at hp
  split at hp
  · obtain ⟨k, hk, rfl⟩ := List.mem_map.1 hp
    rw [Path.components_join _ (h.of_mem_names (mem_replicaNames.1 hk).1).1, find?_set d hl,
      if_neg (hx.ne hk)]
  · cases hp

/-- A disk became another tree, and replicas answer as before. -/
structure Undisturbed (d d' : Disk) : Prop where
  /-- Whatever there is lies in folders. -/
  tree : d'.IsTree
  /-- The answers are the same. -/
  answers : d.AnswersAlike d'

/-- A tree is undisturbed by itself. -/
theorem IsTree.undisturbed_refl (h : d.IsTree) : d.Undisturbed d := ⟨h, fun _ _ _ => rfl⟩

/-- Two steps that disturb nothing disturb nothing. -/
theorem Undisturbed.trans {d'' : Disk} (h : d.Undisturbed d') (h' : d'.Undisturbed d'') :
    d.Undisturbed d'' :=
  ⟨h'.tree, fun s n q => (h'.answers s n q).trans (h.answers s n q)⟩

/-- Something new that spares the replicas disturbs nothing. -/
theorem IsTree.undisturbed_set (h : d.IsTree)
    (hn : ∀ k ∈ l, Path.IsPlain k ∧ Path.isName k = true)
    (ha : ∀ a ∈ above l, d.find? a = some .folder) (hf : d.find? l ≠ some .folder)
    (hx : d.SparesReplicas l e) : d.Undisturbed (d.set l e) := by
  have hl : l ≠ [] := by
    rintro rfl
    exact hf rfl
  have h' := h.set (e := e) hn ha hf
  exact ⟨h', h.answersAlike_set h' hx hl⟩

/-- Above what is in a folder are the folder and what is above it. -/
theorem above_concat (l : Location) (n : String) : above (l ++ [n]) = above l ++ [l] := by
  unfold above
  rw [List.length_append, List.length_singleton, List.range_succ, List.map_append,
    List.map_singleton, List.take_left]
  refine congrArg (· ++ [l]) (List.map_congr_left fun i hi => ?_)
  exact List.take_append_of_le_length (Nat.le_of_lt (List.mem_range.1 hi))

/-- Making the folders on the way to a location disturbs nothing. -/
theorem IsTree.undisturbed_folders (h : d.IsTree)
    (hn : ∀ k ∈ l, Path.IsPlain k ∧ Path.isName k = true)
    (hopen : ∀ a ∈ above l ++ [l], d.find? a = none ∨ d.find? a = some .folder) :
    d.Undisturbed ((above l ++ [l]).foldl addFolder d) := by
  induction l using List.reverseRecOn with
  | nil => exact h.undisturbed_refl
  | append_singleton l n ih =>
    rw [above_concat] at hopen ⊢
    have hl := ih (fun k hk => hn k (List.mem_append_left _ hk))
      fun a ha => hopen a (List.mem_append_left _ ha)
    rw [List.foldl_append]
    refine hl.trans ?_
    have hnot : l ++ [n] ∉ above l ++ [l] := by
      intro hm
      have hlt := length_lt_of_mem_above (l := l ++ [n]) (by rw [above_concat]; exact hm)
      exact Nat.lt_irrefl _ hlt
    have hfound : ((above l ++ [l]).foldl addFolder d).find? (l ++ [n]) = d.find? (l ++ [n]) := by
      rw [find?_addFolders, if_neg hnot]
    rw [List.foldl_cons, List.foldl_nil, addFolder]
    split
    · exact hl.tree.undisturbed_refl
    · next hfolder =>
      have hne : ((above l ++ [l]).foldl addFolder d).find? (l ++ [n]) ≠ some .folder := by
        intro hf
        exact hfolder (beq_iff_eq.2 hf)
      refine hl.tree.undisturbed_set hn ?_ hne (.inl ⟨rfl, ?_⟩)
      · intro a ha
        rw [above_concat] at ha
        rw [find?_addFolders, if_pos ha]
      · rw [hfound] at hne ⊢
        exact (hopen _ (List.mem_append_right _ List.mem_cons_self)).resolve_right hne

/-- A folder that is made, with all that are missing above it, disturbs nothing. -/
theorem IsTree.undisturbed_makeFolder (h : d.IsTree) (hp : ∀ k ∈ l, Path.IsPlain k)
    (hm : d.makeFolder l = some d') : d.Undisturbed d' := by
  obtain ⟨hblocked, hnames, -⟩ := find?_makeFolder hm
  unfold makeFolder at hm
  split at hm
  · cases hm
  · split at hm
    · cases hm
      exact h.undisturbed_refl
    · cases hm
    · next hnone =>
      cases hm
      refine h.undisturbed_folders (fun k hk => ⟨hp k hk, hnames k hk⟩) fun a ha => ?_
      rcases List.mem_append.1 ha with ha | ha
      · exact (isBlocked_eq_false_iff.1 hblocked a ha).imp_right And.left
      · rw [List.mem_singleton.1 ha]
        exact .inl hnone

/-- A file without the extension of replicas that is placed disturbs nothing. -/
theorem IsTree.undisturbed_place (h : d.IsTree) (hp : ∀ k ∈ l ++ [n], Path.IsPlain k)
    (hn : Path.hasExtension replicaExtension n = false) (hd : d.place (l ++ [n]) e = some d') :
    d.Undisturbed d' := by
  have hplaced := placed_of_place hd
  unfold place at hd
  rw [List.dropLast_concat] at hd
  split at hd
  · cases hd
  · next d₁ h₁ =>
    have hfolder := h.undisturbed_makeFolder (fun k hk => hp k (List.mem_append_left _ hk)) h₁
    refine hfolder.trans ?_
    have hl := (find?_makeFolder h₁).2.2.1
    unfold write at hd
    split at hd
    · cases hd
    · next hwrite =>
      cases hd
      simp only [Bool.or_eq_true, not_or, Bool.not_eq_true] at hwrite
      refine hfolder.tree.undisturbed_set (fun k hk => ⟨hp k hk, hplaced.names k hk⟩) ?_ ?_
        (.inr ?_)
      · intro a ha
        rcases mem_above_concat.1 ha with ha | rfl
        · exact hfolder.tree.folders l _ hl a ha
        · exact hl
      · intro hf
        have := hwrite.1.2
        rw [isFolder, hf] at this
        cases this
      · intro k hk
        rw [List.getLast?_concat] at hk
        cases hk
        exact hn

end Disk

end SwapMarket
