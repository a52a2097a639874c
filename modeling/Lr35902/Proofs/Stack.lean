import Mathlib.Data.List.Induction
import Mathlib.Data.List.Infix
import Lr35902.Proofs.Effects

/-!
# The stack

Pushes and pops, one after the other. As long as no pop outnumbers the pushes before it and there is
room below the stack pointer, none of them fails, the pointer stands two bytes per word below where
it stood at first, and a pop hands back the word of the push that it matches
(`stack_last_in_first_out`).
-/

namespace Lr35902

/-! ### One word -/

theorem Memory.write_read_self (m : Memory) (a : UInt16) : m.write a (m.read a) = m :=
  Memory.ext (Vector.set_getElem_self _)

namespace Machine

variable (m : Machine) (w : UInt16)

/-- A push stores its word at the new top of the stack, from the high byte down. -/
theorem mem_pushWord : (m.pushWord w).mem = m.mem.writeWord (m.pushWord w).regs.sp w := by
  have hnext : m.regs.sp - 2 + 1 = m.regs.sp - 1 := by grind
  have hne : m.regs.sp - 1 ≠ m.regs.sp - 2 := by grind
  show (m.mem.write (m.regs.sp - 1) _).write (m.regs.sp - 2) _ = m.mem.writeWord (m.regs.sp - 2) w
  rw [Memory.writeWord, hnext, Memory.write_comm _ hne]

theorem topWord_pushWord : (m.pushWord w).topWord = w := by
  rw [topWord, mem_pushWord, Memory.readWord_writeWord]

/-- Putting the top word back undoes taking it off. -/
theorem pushWord_dropWord : m.dropWord.pushWord m.topWord = m := by
  have hhigh : m.regs.sp + 2 - 1 = m.regs.sp + 1 := by grind
  have hlow : m.regs.sp + 2 - 2 = m.regs.sp := UInt16.add_sub_cancel ..
  unfold pushWord dropWord topWord
  simp only [Memory.readWord_eq, hhigh, hlow, Word.high_ofBytes, Word.low_ofBytes,
    Memory.write_read_self]

theorem read_pushWord_of_ne {a : UInt16} (h₁ : a ≠ m.regs.sp - 1) (h₂ : a ≠ m.regs.sp - 2) :
    (m.pushWord w).mem.read a = m.mem.read a := by
  show ((m.mem.write _ _).write _ _).read a = m.mem.read a
  rw [Memory.read_write_of_ne _ _ h₂.symm, Memory.read_write_of_ne _ _ h₁.symm]

variable {m w} {m' : Machine}

theorem eq_of_on_push (h : (push w).on m = (.ok (), m')) : m' = m.pushWord w := by
  rcases Nat.lt_or_ge m.regs.sp.toNat 2 with hlt | hge
  · cases (on_push_of_lt hlt w).symm.trans h
  · cases (on_push hge w).symm.trans h
    rfl

theorem eq_of_on_pop (h : pop.on m = (.ok w, m')) :
    m.regs.sp.toNat < 0xFFFE ∧ w = m.topWord ∧ m' = m.dropWord := by
  rcases Nat.lt_or_ge m.regs.sp.toNat 0xFFFE with hlt | hge
  · cases (on_pop hlt).symm.trans h
    exact ⟨hlt, rfl, rfl⟩
  · cases (on_pop_of_le hge).symm.trans h

theorem on_push_of_on_pop (h : pop.on m = (.ok w, m')) : (push w).on m' = (.ok (), m) := by
  obtain ⟨hlt, rfl, rfl⟩ := eq_of_on_pop h
  have hsp : m.dropWord.regs.sp.toNat = m.regs.sp.toNat + 2 := toNat_above hlt
  rw [on_push (by omega), m.pushWord_dropWord]

end Machine

/-! ### Operations -/

inductive StackOp where
  | push (w : UInt16)
  | pop
  deriving DecidableEq

namespace StackOp

/-- What an operation hands back, for a pop the word, and the machine after it. -/
def apply (m : Machine) : StackOp → Except Fault (Option UInt16) × Machine
  | .push w =>
    let (result, m') := (Machine.push w).on m
    (result.map fun _ => none, m')
  | .pop =>
    let (result, m') := Machine.pop.on m
    (result.map some, m')

def run (m : Machine) (ops : List StackOp) : Machine := ops.foldl (fun m op => (op.apply m).2) m

/-- How many words an operation adds to the stack. -/
def rise : StackOp → Int
  | .push _ => 1
  | .pop => -1

/-- How many words more are pushed than popped. -/
def depth : List StackOp → Int
  | [] => 0
  | op :: ops => op.rise + depth ops

/-- On the way, there are never more pops than pushes, and the words on the stack never take up more
than `room` bytes. -/
def Fits (room : Nat) (ops : List StackOp) : Prop :=
  ∀ done, done <+: ops → 0 ≤ depth done ∧ depth done ≤ room / 2

/-- Operations that take off the stack all that they put on it, and nothing else. -/
inductive Balanced : List StackOp → Prop where
  | nil : Balanced []
  | nest (w : UInt16) {inner rest : List StackOp} : Balanced inner → Balanced rest →
      Balanced (.push w :: (inner ++ .pop :: rest))

variable {m : Machine} {w : UInt16} {room : Nat} {ops done : List StackOp} {op : StackOp}

@[simp] theorem depth_nil : depth [] = 0 := rfl

@[simp] theorem depth_cons (op : StackOp) (ops : List StackOp) :
    depth (op :: ops) = op.rise + depth ops := rfl

@[simp] theorem depth_append (xs ys : List StackOp) : depth (xs ++ ys) = depth xs + depth ys := by
  induction xs with
  | nil => simp
  | cons op xs ih => rw [List.cons_append, depth_cons, depth_cons, ih, Int.add_assoc]

theorem depth_concat (ops : List StackOp) (op : StackOp) :
    depth (ops ++ [op]) = depth ops + op.rise := by
  simp

theorem run_append (m : Machine) (xs ys : List StackOp) : run m (xs ++ ys) = run (run m xs) ys :=
  List.foldl_append

theorem Fits.of_prefix (h : Fits room ops) (hd : done <+: ops) : Fits room done :=
  fun _ he => h _ (he.trans hd)

theorem apply_push (h : 2 ≤ m.regs.sp.toNat) : (push w).apply m = (.ok none, m.pushWord w) := by
  simp only [apply, Machine.on_push h, Except.map]

theorem apply_push_of_lt (h : m.regs.sp.toNat < 2) :
    (push w).apply m = (.error (.stackOverflow m.regs.sp), m) := by
  simp only [apply, Machine.on_push_of_lt h, Except.map]

theorem apply_pop (h : m.regs.sp.toNat < 0xFFFE) :
    pop.apply m = (.ok (some m.topWord), m.dropWord) := by
  simp only [apply, Machine.on_pop h, Except.map]

theorem apply_pop_of_le (h : 0xFFFE ≤ m.regs.sp.toNat) :
    pop.apply m = (.error (.stackUnderflow m.regs.sp), m) := by
  simp only [apply, Machine.on_pop_of_le h, Except.map]

/-! ### Sequences -/

/-- Two machines that differ in memory and by `words` words on the stack. -/
structure Moved (m m' : Machine) (words : Int) : Prop where
  sp : (m'.regs.sp.toNat : Int) = m.regs.sp.toNat - 2 * words
  regs : m'.regs = { m.regs with sp := m'.regs.sp }
  ime : m'.ime = m.ime

theorem Moved.room_push {m' : Machine} (h : Moved m m' (depth ops))
    (hfits : Fits m.regs.sp.toNat (ops ++ [.push w])) : 2 ≤ m'.regs.sp.toNat := by
  have hroom := (hfits _ (List.prefix_refl _)).2
  have hsp := h.sp
  rw [depth_concat, rise] at hroom
  omega

theorem Moved.room_pop {m' : Machine} (h : Moved m m' (depth ops))
    (hfits : Fits m.regs.sp.toNat (ops ++ [.pop])) : m'.regs.sp.toNat < 0xFFFE := by
  have hpops := (hfits _ (List.prefix_refl _)).1
  have hsp := h.sp
  have htop := m.regs.sp.toNat_lt
  rw [depth_concat, rise] at hpops
  omega

/-- As long as there is room and no pop too many, every operation succeeds and moves the stack
pointer by one word. -/
theorem run_moved (m : Machine) (h : Fits m.regs.sp.toNat ops) :
    Moved m (run m ops) (depth ops) := by
  induction ops using List.reverseRecOn with
  | nil =>
    exact
      { sp := by simp [run]
        regs := rfl
        ime := rfl }
  | append_singleton ops op ih =>
    have before := ih (h.of_prefix (List.prefix_append ops [op]))
    have hsp := before.sp
    rw [run_append]
    generalize run m ops = m' at before hsp
    cases op with
    | push w =>
      have hroom := before.room_push h
      show Moved m ((push w).apply m').2 _
      rw [apply_push hroom]
      refine ⟨?_, ?_, before.ime⟩
      · show (((m'.regs.sp - 2).toNat : Nat) : Int) = _
        rw [(toNat_below hroom).2, depth_concat, rise]
        omega
      · show { m'.regs with sp := m'.regs.sp - 2 } = _
        rw [before.regs]
        rfl
    | pop =>
      have hroom := before.room_pop h
      show Moved m (pop.apply m').2 _
      rw [apply_pop hroom]
      refine ⟨?_, ?_, before.ime⟩
      · show (((m'.regs.sp + 2).toNat : Nat) : Int) = _
        rw [toNat_above hroom, depth_concat, rise]
        omega
      · show { m'.regs with sp := m'.regs.sp + 2 } = _
        rw [before.regs]
        rfl

/-- Cells at or above the first stack pointer, or below all those on the way, stay as they are. -/
theorem read_run (m : Machine) {a : UInt16} (h : Fits m.regs.sp.toNat ops)
    (ha : m.regs.sp.toNat ≤ a.toNat ∨
      ∀ done, done <+: ops → (a.toNat : Int) < m.regs.sp.toNat - 2 * depth done) :
    (run m ops).mem.read a = m.mem.read a := by
  induction ops using List.reverseRecOn with
  | nil => rfl
  | append_singleton ops op ih =>
    have hprefix : ops <+: ops ++ [op] := List.prefix_append ops [op]
    have hkept := ih (h.of_prefix hprefix)
      (ha.imp_right fun hbelow done hd => hbelow done (hd.trans hprefix))
    have before := run_moved m (h.of_prefix hprefix)
    rw [run_append]
    generalize run m ops = m' at before hkept
    cases op with
    | push w =>
      have hroom := before.room_push h
      obtain ⟨hone, htwo⟩ := toNat_below hroom
      have hsp := before.sp
      have hdepth := (h _ hprefix).1
      -- The word goes between the first stack pointer and the new one, and the cell does not.
      have hout : m.regs.sp.toNat ≤ a.toNat ∨ a.toNat < m'.regs.sp.toNat - 2 := by
        refine ha.imp_right fun hbelow => ?_
        have hnew := hbelow _ (List.prefix_refl _)
        rw [depth_concat, rise] at hnew
        omega
      show ((push w).apply m').2.mem.read a = _
      rw [apply_push hroom, ← hkept]
      apply Machine.read_pushWord_of_ne
      · rintro rfl
        omega
      · rintro rfl
        omega
    | pop =>
      show (pop.apply m').2.mem.read a = _
      rw [apply_pop (before.room_pop h)]
      exact hkept

/-! ### Matching pushes and pops -/

theorem Balanced.append {xs ys : List StackOp} (hx : Balanced xs) (hy : Balanced ys) :
    Balanced (xs ++ ys) := by
  induction hx with
  | nil => exact hy
  | nest w hinner _ _ ih =>
    rw [List.cons_append, List.append_assoc, List.cons_append]
    exact .nest w hinner ih

theorem Balanced.depth_eq (h : Balanced ops) : depth ops = 0 := by
  induction h with
  | nil => rfl
  | nest w _ _ ihinner ihrest =>
    simp only [depth_cons, depth_append, ihinner, ihrest, rise]
    omega

theorem Balanced.depth_nonneg (h : Balanced ops) : ∀ done, done <+: ops → 0 ≤ depth done := by
  induction h with
  | nil =>
    intro done hd
    rw [List.prefix_nil.mp hd]
    exact Int.le_refl 0
  | @nest w inner rest hinner _ ihinner ihrest =>
    intro done hd
    rcases List.prefix_cons_iff.mp hd with rfl | ⟨done, rfl, htail⟩
    · exact Int.le_refl 0
    rw [depth_cons, rise]
    -- The prefix ends inside the nest, or behind it.
    rcases List.prefix_or_prefix_of_prefix htail (List.prefix_append inner _)
      with hin | ⟨done, rfl⟩
    · have := ihinner done hin
      omega
    · have hout := (List.prefix_append_right_inj inner).mp htail
      rw [depth_append, hinner.depth_eq]
      rcases List.prefix_cons_iff.mp hout with rfl | ⟨done, rfl, hrest⟩
      · decide
      · have := ihrest done hrest
        rw [depth_cons, rise]
        omega

/-- What is left on the stack was pushed by an operation behind which all others match. -/
theorem exists_push (h : ∀ done, done <+: ops → 0 ≤ depth done) : ∀ done, done <+: ops →
    Balanced done ∨
      ∃ earlier w between, done = earlier ++ .push w :: between ∧ Balanced between := by
  induction ops using List.reverseRecOn with
  | nil =>
    intro done hd
    rw [List.prefix_nil.mp hd]
    exact .inl .nil
  | append_singleton ops op ih =>
    have hprefix : ops <+: ops ++ [op] := List.prefix_append ops [op]
    replace ih := ih fun done hd => h done (hd.trans hprefix)
    intro done hd
    rcases List.prefix_concat_iff.mp hd with rfl | hd
    · cases op with
      | push w => exact .inr ⟨ops, w, [], rfl, .nil⟩
      | pop =>
        -- The pop matches the last push that is open before it.
        rcases ih ops (List.prefix_refl _) with hbal | ⟨earlier, w, between, heq, hbetween⟩
        · have hneg := h _ hd
          rw [depth_concat, hbal.depth_eq, rise] at hneg
          omega
        have hnest : Balanced (.push w :: (between ++ [.pop])) := .nest w hbetween .nil
        have hsplit : ops ++ [.pop] = earlier ++ (.push w :: (between ++ [.pop])) := by
          rw [heq, List.append_assoc, List.cons_append]
        rw [hsplit]
        have hearlier : earlier <+: ops := heq ▸ List.prefix_append ..
        rcases ih earlier hearlier with hbal | ⟨first, v, inner, hfirst, hinner⟩
        · exact .inl (hbal.append hnest)
        · refine .inr ⟨first, v, inner ++ (.push w :: (between ++ [.pop])), ?_, hinner.append hnest⟩
          rw [hfirst, List.append_assoc, List.cons_append]
    · exact ih done hd

theorem topWord_run (h : Balanced ops) (hfits : Fits m.regs.sp.toNat ops)
    (htop : m.regs.sp.toNat < 0xFFFF) : (run m ops).topWord = m.topWord := by
  have hmoved := run_moved m hfits
  have hsp : (run m ops).regs.sp = m.regs.sp := by
    have := hmoved.sp
    rw [h.depth_eq] at this
    exact UInt16.toNat_inj.mp (by omega)
  have hnext : (m.regs.sp + 1).toNat = m.regs.sp.toNat + 1 := by
    rw [UInt16.toNat_add, UInt16.toNat_one]
    omega
  unfold Machine.topWord
  rw [Memory.readWord_eq, Memory.readWord_eq, hsp, read_run m hfits (.inl (Nat.le_refl _)),
    read_run m hfits (.inl (by omega))]

/-- What comes after some operations fits below where they leave the stack pointer. -/
theorem Fits.rest {xs ys : List StackOp} (h : Fits m.regs.sp.toNat (xs ++ ys))
    (hup : ∀ done, done <+: ys → 0 ≤ depth done) : Fits (run m xs).regs.sp.toNat ys := by
  intro done hd
  have hsp := (run_moved m (h.of_prefix (List.prefix_append xs ys))).sp
  have hlimit := (h (xs ++ done) ((List.prefix_append_right_inj xs).mpr hd)).2
  rw [depth_append] at hlimit
  exact ⟨hup done hd, by omega⟩

/-- A pop hands back the word of the push that it matches. -/
theorem pop_of_matching {earlier between : List StackOp} (hbal : Balanced between)
    (h : Fits m.regs.sp.toNat (earlier ++ [.push w] ++ between ++ [.pop])) :
    (pop.apply (run m (earlier ++ [.push w] ++ between))).1 = .ok (some w) := by
  have hbefore := h.of_prefix (List.prefix_append _ [pop])
  have hpush := hbefore.of_prefix (List.prefix_append _ between)
  have hearlier := hpush.of_prefix (List.prefix_append earlier [push w])
  have hroom := (run_moved m hearlier).room_push hpush
  have hpushed : run m (earlier ++ [.push w]) = (run m earlier).pushWord w := by
    rw [run_append]
    show ((push w).apply (run m earlier)).2 = _
    rw [apply_push hroom]
  have htop : (run m (earlier ++ [.push w])).regs.sp.toNat < 0xFFFF := by
    rw [hpushed]
    have := (run m earlier).regs.sp.toNat_lt
    show ((run m earlier).regs.sp - 2).toNat < _
    rw [(toNat_below hroom).2]
    omega
  rw [apply_pop ((run_moved m hbefore).room_pop h), run_append,
    topWord_run hbal (hbefore.rest hbal.depth_nonneg) htop, hpushed, Machine.topWord_pushWord]

/-- The stack is last in, first out. In any sequence of operations that never pops more than it has
pushed, and that never holds more words than there is room for, no operation fails; the stack
pointer stands two bytes per word below where it stood at first; all else but memory is as it was;
memory is as it was from the first stack pointer up and below the lowest on the way; and a pop hands
back the word of the push that it matches. A push without room and a pop at the end of memory fail
and change nothing. What a pop takes off, a push puts back. -/
theorem stack_last_in_first_out (m : Machine) :
    (∀ ops, Fits m.regs.sp.toNat ops → ∀ done, done <+: ops →
      let m' := run m done
      (m'.regs.sp.toNat : Int) = m.regs.sp.toNat - 2 * depth done ∧
      m'.regs = { m.regs with sp := m'.regs.sp } ∧ m'.ime = m.ime ∧
      (∀ a : UInt16, (m.regs.sp.toNat ≤ a.toNat ∨ ∀ earlier, earlier <+: done →
        (a.toNat : Int) < m.regs.sp.toNat - 2 * depth earlier) → m'.mem.read a = m.mem.read a) ∧
      (∀ w, done ++ [.push w] <+: ops → ((push w).apply m').1 = .ok none) ∧
      (done ++ [.pop] <+: ops → ∃ earlier w between, done = earlier ++ .push w :: between ∧
        Balanced between ∧ (pop.apply m').1 = .ok (some w))) ∧
    (m.regs.sp.toNat < 2 → ∀ w, (push w).apply m = (.error (.stackOverflow m.regs.sp), m)) ∧
    (0xFFFE ≤ m.regs.sp.toNat → pop.apply m = (.error (.stackUnderflow m.regs.sp), m)) ∧
    ∀ w m', Machine.pop.on m = (.ok w, m') → (Machine.push w).on m' = (.ok (), m) := by
  refine ⟨?_, fun h w => apply_push_of_lt h, apply_pop_of_le, ?_⟩
  · intro ops hops done hdone
    have hfits := hops.of_prefix hdone
    have hmoved := run_moved m hfits
    refine ⟨hmoved.sp, hmoved.regs, hmoved.ime, fun a => read_run m hfits, ?_, ?_⟩
    · intro w hnext
      rw [apply_push (hmoved.room_push (hops.of_prefix hnext))]
    · intro hnext
      rcases exists_push (fun d hd => (hfits d hd).1) done (List.prefix_refl _) with
        hbal | ⟨earlier, w, between, rfl, hbal⟩
      · have hpops := (hops _ hnext).1
        rw [depth_concat, hbal.depth_eq, rise] at hpops
        omega
      · have hall := hops.of_prefix hnext
        have hsplit := List.append_cons earlier (push w) between
        rw [hsplit] at hall ⊢
        exact ⟨earlier, w, between, hsplit.symm, hbal, pop_of_matching hbal hall⟩
  · intro w m' hpop
    exact Machine.on_push_of_on_pop hpop

/-- Two words from an odd stack pointer, the second of them at the bottom of memory. -/
theorem stack_last_in_first_out_odd :
    let m : Machine := { regs := { Registers.postBoot with sp := 5 }, mem := .blank, ime := false }
    let done : List StackOp := [.push 0xBEEF, .push 0x1234, .pop]
    Fits m.regs.sp.toNat (done ++ [.pop]) ∧ (run m [.push 0xBEEF, .push 0x1234]).regs.sp.toNat = 1 ∧
      ∃ earlier w between, done = earlier ++ .push w :: between ∧ Balanced between ∧
        (pop.apply (run m done)).1 = .ok (some w) := by
  intro m done
  have hall : ∀ d ∈ (done ++ [pop]).inits, 0 ≤ depth d ∧ depth d ≤ (5 : Nat) / 2 := by decide
  have hfits : Fits m.regs.sp.toNat (done ++ [.pop]) := fun d hd =>
    hall d ((List.mem_inits d _).mpr hd)
  obtain ⟨hlifo, -⟩ := stack_last_in_first_out m
  obtain ⟨hsp, -⟩ := hlifo _ hfits [.push 0xBEEF, .push 0x1234] ⟨[pop, pop], rfl⟩
  obtain ⟨-, -, -, -, -, hpop⟩ := hlifo _ hfits done (List.prefix_append ..)
  refine ⟨hfits, ?_, hpop (List.prefix_refl _)⟩
  have hdepth : depth [.push 0xBEEF, .push 0x1234] = 2 := by decide
  have hfirst : m.regs.sp.toNat = 5 := rfl
  omega

end StackOp

end Lr35902
