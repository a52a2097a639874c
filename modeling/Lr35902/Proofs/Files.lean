import Lr35902.Console.Files

/-!
# Reading and writing

A path that a file can have leads to a place (`target?`). Reading finds what is in that place;
writing puts something there and touches nothing else. All directories on the way to the place are
there before the write, so that a write makes none, and every path leads where it led before
(`Gains.target`).
-/

namespace Lr35902.Files

variable {fs fs' : Files} {l k : Location} {path : OsString} {content : ByteArray}

/-- The place of the file that a path leads to, if there can be one. -/
def target? (fs : Files) (path : OsString) : Option Location :=
  (fs.resolve path).toOption.bind fun (l, asDirectory) =>
    if asDirectory || fs.isDirectory l then none else some l

/-- The files with something put in a place. -/
def place (fs : Files) (l : Location) (content : ByteArray) : Files :=
  { fs with files := put l content fs.files }

/-! ### Accesses -/

theorem bind_eq_ok {α β : Type} {x : Except FileError α} {f : α → Except FileError β} {b : β} :
    x >>= f = .ok b ↔ ∃ a, x = .ok a ∧ f a = .ok b := by
  cases x with
  | error e => simp [bind, Except.bind]
  | ok a => simp [bind, Except.bind]

theorem toOption_eq_some {α : Type} {x : Except FileError α} {a : α} :
    x.toOption = some a ↔ x = .ok a := by
  cases x <;> simp [Except.toOption]

theorem target?_eq_some :
    fs.target? path = some l ↔ fs.resolve path = .ok (l, false) ∧ fs.isDirectory l = false := by
  unfold target?
  simp only [Option.bind_eq_some_iff, toOption_eq_some, Option.ite_none_left_eq_some,
    Bool.or_eq_true, not_or, Bool.not_eq_true, Option.some.injEq]
  constructor
  · rintro ⟨⟨k, asDirectory⟩, hresolve, ⟨rfl, hfile⟩, rfl⟩
    exact ⟨hresolve, hfile⟩
  · rintro ⟨hresolve, hfile⟩
    exact ⟨(l, false), hresolve, ⟨rfl, hfile⟩, rfl⟩

theorem write_of_target (h : fs.target? path = some l) (content : ByteArray) :
    fs.write path content = .ok (fs.place l content) := by
  obtain ⟨hresolve, hfile⟩ := target?_eq_some.mp h
  unfold write
  rw [hresolve]
  show (if false || fs.isDirectory l then Except.error FileError.isDirectory
    else .ok (fs.place l content)) = _
  rw [hfile]
  rfl

theorem write_of_no_target (h : fs.target? path = none) :
    ∃ e, ∀ content, fs.write path content = .error e := by
  unfold target? at h
  unfold write
  cases hr : fs.resolve path with
  | error e => exact ⟨e, fun _ => rfl⟩
  | ok r =>
    rw [hr] at h
    change (if r.2 || fs.isDirectory r.1 then none else some r.1) = none at h
    refine ⟨.isDirectory, fun content => if_pos ?_⟩
    cases hdir : r.2 || fs.isDirectory r.1 with
    | true => rfl
    | false =>
      rw [hdir] at h
      cases h

theorem read_of_target (h : fs.target? path = some l) :
    fs.read path = match fs.content? l with
      | none => .error .notFound
      | some content => .ok content := by
  obtain ⟨hresolve, hfile⟩ := target?_eq_some.mp h
  unfold read
  rw [hresolve]
  simp only [bind, Except.bind, hfile]
  rfl

theorem exists_target_of_read (h : fs.read path = .ok content) :
    ∃ l, fs.target? path = some l := by
  obtain ⟨⟨l, asDirectory⟩, hresolve, h⟩ := bind_eq_ok.mp h
  simp only at h
  cases hdir : fs.isDirectory l with
  | true => simp [hdir] at h
  | false =>
    cases asDirectory with
    | true => cases hc : fs.content? l <;> simp [hdir, hc] at h
    | false => exact ⟨l, target?_eq_some.mpr ⟨hresolve, hdir⟩⟩

theorem read_eq_ok : fs.read path = .ok content ↔
    ∃ l, fs.target? path = some l ∧ fs.content? l = some content := by
  constructor
  · intro h
    obtain ⟨l, hl⟩ := exists_target_of_read h
    rw [read_of_target hl] at h
    cases hc : fs.content? l with
    | none =>
      rw [hc] at h
      cases h
    | some old =>
      rw [hc] at h
      cases h
      exact ⟨l, hl, hc⟩
  · rintro ⟨l, hl, hc⟩
    rw [read_of_target hl, hc]

theorem lookup_cons (k l : Location) (old : ByteArray) (files : List (Location × ByteArray)) :
    ((l, old) :: files).lookup k = if k = l then some old else files.lookup k := by
  by_cases h : k = l
  · rw [if_pos h, h]
    exact List.lookup_cons_self
  · rw [if_neg h, List.lookup_cons, beq_false_of_ne h]

theorem lookup_put (l k : Location) (content : ByteArray) (files : List (Location × ByteArray)) :
    (put l content files).lookup k = if k = l then some content else files.lookup k := by
  induction files with
  | nil => exact lookup_cons k l content []
  | cons f files ih =>
    obtain ⟨j, old⟩ := f
    unfold put
    split
    · rename_i hj
      rw [lookup_cons, lookup_cons, hj]
      split <;> rfl
    · rename_i hj
      rw [lookup_cons, lookup_cons, ih]
      -- A place found further back is not the one in front.
      split
      · rename_i hk
        rw [if_neg (hk ▸ hj)]
      · rfl

theorem any_put (p : Location → Bool) (l : Location) (content : ByteArray)
    (files : List (Location × ByteArray)) :
    (put l content files).any (fun (k, _) => p k) = (files.any (fun (k, _) => p k) || p l) := by
  induction files with
  | nil => simp [put]
  | cons f files ih =>
    obtain ⟨j, old⟩ := f
    by_cases hj : j = l
    · simp [put, hj, Bool.or_comm]
    · simp only [put, hj, if_false, List.any_cons]
      rw [ih, Bool.or_assoc]

theorem content?_place (k : Location) :
    (fs.place l content).content? k = if k = l then some content else fs.content? k :=
  lookup_put l k content fs.files

/-! ### Directories -/

/-- Whatever lies on the way to a place is a directory. -/
def Reached (fs : Files) (l : Location) : Prop :=
  ∀ k, k <+: l → k ≠ l → fs.isDirectory k = true

theorem isDirectory_of_below (hk : k <+: l) (h : fs.isDirectory l = true) :
    fs.isDirectory k = true := by
  simp only [isDirectory, Bool.or_eq_true, List.isPrefixOf_iff_prefix, List.any_eq_true,
    Bool.and_eq_true, bne_iff_ne] at h ⊢
  obtain h | ⟨f, hf, hl, hne⟩ := h
  · exact .inl (hk.trans h)
  · refine .inr ⟨f, hf, hk.trans hl, ?_⟩
    intro heq
    exact hne (hl.eq_of_length_le (heq ▸ hk.length_le))

theorem reached_of_isDirectory (h : fs.isDirectory l = true) : fs.Reached l :=
  fun _ hk _ => isDirectory_of_below hk h

theorem reached_concat (h : fs.isDirectory l = true) (name : OsString) :
    fs.Reached (l ++ [name]) := by
  intro k hk hne
  rw [List.prefix_concat_iff] at hk
  exact isDirectory_of_below (hk.resolve_left hne) h

/-- Putting a file where it can be reached makes no directory. -/
theorem isDirectory_place (h : fs.Reached l) (k : Location) :
    (fs.place l content).isDirectory k = fs.isDirectory k := by
  have hany : (fs.place l content).isDirectory k =
      (fs.isDirectory k || (k.isPrefixOf l && k != l)) := by
    unfold isDirectory
    rw [Bool.or_assoc]
    exact congrArg (k.isPrefixOf fs.home || ·) (any_put (fun f => k.isPrefixOf f && k != f) ..)
  cases hk : k.isPrefixOf l && k != l with
  | false => rw [hany, hk, Bool.or_false]
  | true =>
    rw [Bool.and_eq_true, List.isPrefixOf_iff_prefix, bne_iff_ne] at hk
    rw [hany, h k hk.1 hk.2, Bool.true_or]

/-! ### Paths -/

theorem enter_eq_ok : fs.enter l = .ok k ↔ fs.isDirectory l = true ∧ l = k := by
  unfold enter
  split
  · simp_all
  · split <;> simp_all

def within (l : Location) (name : OsString) : Location :=
  if name = here then l else if name = parent then l.dropLast else l ++ [name]

theorem reached_within (h : fs.isDirectory l = true) (name : OsString) :
    fs.Reached (within l name) := by
  unfold within
  split
  · exact reached_of_isDirectory h
  · split
    · exact reached_of_isDirectory (isDirectory_of_below (List.dropLast_prefix l) h)
    · exact reached_concat h name

theorem follow_cons_eq_ok {name : OsString} {names : List OsString} :
    fs.follow l (name :: names) = .ok k ↔
      fs.isDirectory l = true ∧ name.length ≤ maxNameSize ∧
        fs.follow (within l name) names = .ok k := by
  rw [follow, bind_eq_ok]
  simp only [enter_eq_ok, and_assoc, exists_and_left, exists_eq_left']
  refine and_congr_right fun _ => ?_
  by_cases hname : maxNameSize < name.length
  · simp [bind, Except.bind, throw, throwThe, MonadExceptOf.throw, hname, Nat.not_le_of_lt hname]
  · simp [within, hname, Nat.le_of_not_lt hname]

theorem follow_reached {names : List OsString} (h : fs.Reached l) (hk : fs.follow l names = .ok k) :
    fs.Reached k := by
  induction names generalizing l with
  | nil =>
    cases hk
    exact h
  | cons name names ih =>
    obtain ⟨hl, -, hk⟩ := follow_cons_eq_ok.mp hk
    exact ih (reached_within hl name) hk

/-- Only the directories tell where names lead. -/
theorem follow_congr (h : ∀ k, fs'.isDirectory k = fs.isDirectory k) {names : List OsString} :
    fs'.follow l names = .ok k ↔ fs.follow l names = .ok k := by
  induction names generalizing l with
  | nil => exact Iff.rfl
  | cons name names ih => rw [follow_cons_eq_ok, follow_cons_eq_ok, h, ih]

theorem resolve_eq_ok {r : Location × Bool} :
    fs.resolve path = .ok r ↔ path ≠ [] ∧
      ∃ l, fs.follow (fs.origin path) ((Text.fields slash path).filter (· ≠ [])) = .ok l ∧
        (l, [[], here, parent].contains ((Text.fields slash path).getLastD [])) = r := by
  unfold resolve
  by_cases h : path = []
  · rw [if_pos h]
    exact iff_of_false nofun fun hpath => hpath.1 h
  · rw [if_neg h, bind_eq_ok, and_iff_right h]
    simp only [pure, Except.pure, Except.ok.injEq]

theorem resolve_congr (hdir : ∀ k, fs'.isDirectory k = fs.isDirectory k)
    (hhome : fs'.home = fs.home) {r : Location × Bool} :
    fs'.resolve path = .ok r ↔ fs.resolve path = .ok r := by
  have horigin : fs'.origin path = fs.origin path := by
    unfold origin
    rw [hhome]
  simp only [resolve_eq_ok, horigin, follow_congr hdir]

theorem isDirectory_origin (path : OsString) : fs.isDirectory (fs.origin path) = true := by
  unfold isDirectory origin
  split <;> simp

theorem reached_of_target (h : fs.target? path = some l) : fs.Reached l := by
  obtain ⟨hresolve, -⟩ := target?_eq_some.mp h
  obtain ⟨-, k, hfollow, hk⟩ := resolve_eq_ok.mp hresolve
  obtain rfl : k = l := congrArg Prod.fst hk
  exact follow_reached (reached_of_isDirectory (isDirectory_origin _)) hfollow

/-- The other files are the same but for what one place has gained, if there is one. -/
structure Gains (fs : Files) (place? : Option Location) (content : ByteArray) (fs' : Files) :
    Prop where
  home : fs'.home = fs.home
  isDirectory : ∀ k, fs'.isDirectory k = fs.isDirectory k
  content : ∀ k, fs'.content? k = if place? = some k then some content else fs.content? k

theorem gains_nothing (fs : Files) (content : ByteArray) : fs.Gains none content fs :=
  ⟨rfl, fun _ => rfl, fun _ => rfl⟩

theorem gains_place (h : fs.target? path = some l) (content : ByteArray) :
    fs.Gains (some l) content (fs.place l content) where
  home := rfl
  isDirectory := isDirectory_place (reached_of_target h)
  content k := by
    rw [content?_place]
    simp only [Option.some.injEq, eq_comm]

/-- Every path leads where it led before. -/
theorem Gains.target {place? : Option Location} (h : fs.Gains place? content fs')
    (path : OsString) :
    fs'.target? path = fs.target? path := by
  refine Option.ext fun l => ?_
  rw [target?_eq_some, target?_eq_some, resolve_congr h.isDirectory h.home, h.isDirectory]

theorem Gains.read (h : fs.Gains (some l) content fs') (hpath : fs.target? path = some l) :
    fs'.read path = .ok content := by
  refine read_eq_ok.mpr ⟨l, (h.target path).trans hpath, ?_⟩
  rw [h.content, if_pos rfl]

theorem Gains.read_of_ne {place? : Option Location} {old : ByteArray}
    (h : fs.Gains place? content fs') (hne : place? ≠ fs.target? path)
    (hread : fs.read path = .ok old) : fs'.read path = .ok old := by
  obtain ⟨l, hl, hold⟩ := read_eq_ok.mp hread
  refine read_eq_ok.mpr ⟨l, (h.target path).trans hl, ?_⟩
  rw [h.content, if_neg (hl ▸ hne), hold]

end Lr35902.Files
