import SwapMarket.Proofs.Board.Calls

/-!
# Tokens of calls that run at the same time

* **`Board.Keeps`**: a board keeps snapshot, file and time of success of an item that another board
  has. A move of a call keeps every item that the call does not build (`Effect.keeps_other`).
* **`Tokens`**: the token of an item is taken exactly while some call has it, and no two calls have
  the token of one item. Every move keeps this (`Tokens.effect`).
-/

namespace SwapMarket

/-! ## What a step of a build leaves alone -/

/-- What one board keeps of an item that another board has: its snapshot, its file, and when it was
last built. -/
structure Board.Keeps (b b' : Board) (n : Item) : Prop where
  /-- The snapshot. -/
  slot : b'.slots n = b.slots n
  /-- The file. -/
  file : b'.file n = b.file n
  /-- When the item was last built. -/
  built : (b'.stamps n).lastBuilt = (b.stamps n).lastBuilt

namespace Board

theorem Keeps.refl (b : Board) (n : Item) : b.Keeps b n := ⟨rfl, rfl, rfl⟩

theorem Keeps.trans {b c d : Board} {n : Item} (h : b.Keeps c n) (k : c.Keeps d n) : b.Keeps d n :=
  ⟨k.slot.trans h.slot, k.file.trans h.file, k.built.trans h.built⟩

/-- Taking the token changes neither snapshot nor file nor the time of success. -/
theorem begin_keeps (b : Board) (n m : Item) : b.Keeps (b.begin n) m := by
  refine ⟨rfl, rfl, ?_⟩
  by_cases h : n = m
  · subst h
    simp [begin, setBuilding]
  · simp [begin, setBuilding, h]

/-- Giving the token back changes nothing else. -/
theorem release_keeps (b : Board) (n m : Item) : b.Keeps (b.release n) m := ⟨rfl, rfl, rfl⟩

@[simp] theorem building_begin (b : Board) (n m : Item) :
    (b.begin n).building m = if n = m then true else b.building m := rfl

@[simp] theorem building_release (b : Board) (n m : Item) :
    (b.release n).building m = if n = m then false else b.building m := rfl

/-- A build starts only while the token is there. -/
theorem building_of_starts {b : Board} {n : Item} (h : b.starts n = .ok true) :
    b.building n = false := by
  cases hb : b.building n with
  | false => rfl
  | true => simp [starts, hb] at h

/-- Surroundings that may come keep every item. -/
theorem keeps_of_mayBecome {b : Board} {now : Int} {disk : Disk} (h : b.mayBecome now disk = true)
    (network : Network) (n : Item) :
    b.Keeps { b with now := now, disk := disk, network := network } n := by
  simp only [mayBecome, Bool.and_eq_true, List.all_eq_true, beq_iff_eq] at h
  exact ⟨rfl, (h.2 n n.mem_all).1, rfl⟩

/-- Surroundings that may come leave open what is open. -/
theorem isOpen_of_mayBecome {b : Board} {now : Int} {disk : Disk}
    (h : b.mayBecome now disk = true) (network : Network) (n : Item) :
    ({ b with now := now, disk := disk, network := network } : Board).isOpen n = b.isOpen n := by
  simp only [mayBecome, Bool.and_eq_true, List.all_eq_true, beq_iff_eq] at h
  simp only [isOpen, (h.2 n n.mem_all).2]

end Board

namespace Calls

variable {item : Nat → Item} {s t : Calls item} {a : Option Nat}

/-- A move of a call keeps every other item, its notes included. -/
theorem Effect.keeps_other (h : Effect s a t) {n : Item} (hn : ∀ c, a = some c → item c ≠ n) :
    s.board.Keeps t.board n ∧ t.board.stamps n = s.board.stamps n := by
  cases h with
  | idle => exact ⟨.refl _ _, rfl⟩
  | @begun c hp hs =>
    refine ⟨Board.begin_keeps _ _ _, ?_⟩
    simp [Board.begin, Board.setBuilding, hn c rfl]
  | refused => exact ⟨.refl _ _, rfl⟩
  | produced => exact ⟨.refl _ _, rfl⟩
  | failed => exact ⟨Board.release_keeps _ _ _, rfl⟩
  | @written c v b hp hb =>
    obtain ⟨⟨d, rfl⟩, -, -, hf⟩ := Board.persist_ok hb
    exact ⟨⟨rfl, (hf n (Ne.symm (hn c rfl))).1, rfl⟩, rfl⟩
  | @published c v hp => exact ⟨⟨Board.slots_publish_of_ne _ (hn c rfl) v, rfl, rfl⟩, rfl⟩
  | @built c v hp =>
    have hs : ((s.board.stamp (item c)).release (item c)).stamps n = s.board.stamps n := by
      simp [Board.stamp, Board.release, Board.setBuilding, hn c rfl]
    exact ⟨⟨rfl, rfl, congrArg _ hs⟩, hs⟩
  | changed h => exact ⟨Board.keeps_of_mayBecome h _ n, rfl⟩

/-- A move of a call is not in the log of any other item. -/
theorem Effect.log_other (h : Effect s a t) {n : Item} (hn : ∀ c, a = some c → item c ≠ n) :
    lastWritten n t.log = lastWritten n s.log ∧ lastPublished n t.log = lastPublished n s.log ∧
      lastBuilt n t.log = lastBuilt n s.log := by
  cases h with
  | written => exact ⟨lastWritten_written_of_ne (hn _ rfl), rfl, rfl⟩
  | published => exact ⟨rfl, lastPublished_published_of_ne (hn _ rfl), rfl⟩
  | built => exact ⟨rfl, rfl, lastBuilt_built_of_ne (hn _ rfl)⟩
  | _ => exact ⟨rfl, rfl, rfl⟩

/-! ## Tokens -/

/-- The token of an item is taken while a call has it, and only one call has it. -/
structure Tokens (s : Calls item) : Prop where
  /-- No two calls have the token of one item. -/
  unique : ∀ c d, (s.phase c).hasToken = true → (s.phase d).hasToken = true →
    item c = item d → c = d
  /-- A token is taken while a call has it. -/
  taken : ∀ n, s.board.building n = true ↔ ∃ c, item c = n ∧ (s.phase c).hasToken = true

/-- Only the tokens that calls have and those that are taken count. -/
theorem Tokens.congr (h : Tokens s) (hp : ∀ c, (t.phase c).hasToken = (s.phase c).hasToken)
    (hb : t.board.building = s.board.building) : Tokens t := by
  constructor
  · intro c d hc hd
    rw [hp] at hc hd
    exact h.unique c d hc hd
  · intro n
    simp only [hb, hp]
    exact h.taken n

/-- A call whose phase changes has the token after if and only if it had it before. -/
theorem hasToken_setPhase {c : Nat} {p : Phase (item c)}
    (hp : p.hasToken = (s.phase c).hasToken) (d : Nat) :
    ((s.setPhase c p).phase d).hasToken = (s.phase d).hasToken := by
  by_cases hd : d = c
  · subst hd
    rw [setPhase_self, hp]
  · rw [setPhase_of_ne s hd]

/-- A call that gets a token gets one that no other call has. -/
theorem Tokens.begun (h : Tokens s) {c : Nat} (hs : s.board.starts (item c) = .ok true) :
    Tokens ({ s with board := s.board.begin (item c) }.setPhase c .producing) := by
  have hfree : ∀ d, item d = item c → (s.phase d).hasToken = false := by
    intro d hd
    have hb := Board.building_of_starts hs
    by_contra hn
    rw [(h.taken (item c)).2 ⟨d, hd, by simpa using hn⟩] at hb
    cases hb
  constructor
  · intro d e hd he hde
    by_cases h1 : d = c <;> by_cases h2 : e = c
    · rw [h1, h2]
    · subst h1
      rw [setPhase_of_ne _ h2] at he
      exact absurd he (by simp [hfree e hde.symm])
    · subst h2
      rw [setPhase_of_ne _ h1] at hd
      exact absurd hd (by simp [hfree d hde])
    · rw [setPhase_of_ne _ h1] at hd
      rw [setPhase_of_ne _ h2] at he
      exact h.unique d e hd he hde
  · intro n
    rw [setPhase_board, Board.building_begin]
    by_cases hn : item c = n
    · rw [if_pos hn]
      exact ⟨fun _ => ⟨c, hn, by simp [Phase.hasToken]⟩, fun _ => rfl⟩
    · rw [if_neg hn, h.taken n]
      refine exists_congr fun d => and_congr_right fun hd => ?_
      have hne : d ≠ c := fun e => hn (e ▸ hd)
      rw [setPhase_of_ne _ hne]

/-- A call that gives a token back leaves the other ones where they are. -/
theorem Tokens.released (h : Tokens s) {c : Nat} {p : Phase (item c)}
    (hc : (s.phase c).hasToken = true) (hp : p.hasToken = false) {b : Board}
    {log : List (Event item)}
    (hb : b.building = (s.board.release (item c)).building) :
    Tokens ({ s with board := b, log := log }.setPhase c p) := by
  have hold : ∀ d,
      ((({ s with board := b, log := log } : Calls item).setPhase c p).phase d).hasToken
      = true ↔ d ≠ c ∧ (s.phase d).hasToken = true := by
    intro d
    by_cases hd : d = c
    · subst hd
      simp [hp]
    · rw [setPhase_of_ne _ hd]
      simp [hd]
  constructor
  · intro d e hd he
    exact h.unique d e ((hold d).1 hd).2 ((hold e).1 he).2
  · intro n
    rw [setPhase_board]
    simp only [hb, Board.building_release, hold]
    by_cases hn : item c = n
    · rw [if_pos hn]
      refine ⟨fun hf => (by cases hf), ?_⟩
      rintro ⟨d, hd, hdc, ht⟩
      exact absurd (h.unique d c ht hc (hd.trans hn.symm)) hdc
    · rw [if_neg hn, h.taken n]
      refine exists_congr fun d => and_congr_right fun hd => ?_
      have hne : d ≠ c := fun e => hn (e ▸ hd)
      simp [hne]

/-- A move keeps each token with at most one call, and marks it on the board. -/
theorem Tokens.effect (h : Tokens s) (e : Effect s a t) : Tokens t := by
  cases e with
  | idle => exact h
  | begun hp hs => exact h.begun hs
  | refused hp hn =>
    exact h.congr (hasToken_setPhase (by rw [hasToken_of_refused hn, hp]; rfl)) rfl
  | produced hp => exact h.congr (hasToken_setPhase (by rw [hp]; rfl)) rfl
  | @failed c _ hp =>
    refine h.released (b := s.board.release (item c)) ?_ rfl rfl
    cases hc : s.phase c <;> simp_all [Phase.hasToken, Phase.isMaking]
  | written hp hb =>
    obtain ⟨⟨d, rfl⟩, -⟩ := Board.persist_ok hb
    exact h.congr (hasToken_setPhase (s := { s with board := _, log := _ }) (by simp [hp]; rfl)) rfl
  | published hp =>
    exact h.congr (hasToken_setPhase (s := { s with board := _, log := _ }) (by simp [hp]; rfl)) rfl
  | built hp => exact h.released (by rw [hp]; rfl) rfl rfl
  | changed => exact h.congr (fun _ => rfl) rfl

end Calls

end SwapMarket
