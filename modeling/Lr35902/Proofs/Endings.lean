import Lr35902.Proofs.Arguments
import Lr35902.Proofs.Runs
import Lr35902.Proofs.Stages

/-!
# How the program ends

The program gives up at the first trouble (`gives_up_at_first_trouble`). Without any it reports how
the machine stands after the run, and only the image, the limit and the form of the report tell what
it reports (`reports_of_sound`).
-/

namespace Lr35902.Program

variable {lib : Libraries} {words : List OsString} {o : Options} {fs fs' : Files}
  {image : ByteArray}

/-! ### Troubles -/

/-- What can keep the program from running a cartridge. -/
inductive Trouble where
  | words
  | filter
  | noCartridge
  | cartridge
  | memoryDump
  | listing
  | window
  deriving DecidableEq, Repr

namespace Trouble

/-- The order in which the troubles come up. -/
def rank : Trouble → Nat
  | .words => 0
  | .filter => 1
  | .noCartridge => 2
  | .cartridge => 3
  | .memoryDump => 4
  | .listing => 5
  | .window => 6

theorem rank_injective {t t' : Trouble} (h : t.rank = t'.rank) : t = t' := by
  cases t <;> cases t' <;> first | rfl | cases h

theorem rank_lt (t : Trouble) : t.rank < 7 := by
  cases t <;> decide

/-- The exit code that goes with a trouble. -/
def code : Trouble → UInt32
  | .words => 2
  | _ => 1

end Trouble

/-- The options name a file with the image of a cartridge. -/
def Loads (o : Options) (fs : Files) (image : ByteArray) : Prop :=
  ∃ p, o.rom = some p ∧ fs.Holds p image

/-- The troubles with a command line and the files as they are at the beginning. -/
inductive Afflicts (lib : Libraries) (words : List OsString) (fs : Files) : Trouble → Prop where
  | words {text : String} : lib.options words = .error (.refused text) →
      Afflicts lib words fs .words
  | filter {o : Options} {filter : String} {complaint : List String} :
      lib.options words = .ok o → o.logFilter = some filter →
      lib.judge filter = some complaint → Afflicts lib words fs .filter
  | noCartridge {o : Options} : lib.options words = .ok o → o.rom = none →
      Afflicts lib words fs .noCartridge
  | cartridge {o : Options} {p : OsString} {e : CartridgeError} :
      lib.options words = .ok o → o.rom = some p → fs.LoadFails p e →
      Afflicts lib words fs .cartridge
  | memoryDump {o : Options} {p : OsString} : lib.options words = .ok o →
      o.dumpMemory = some p → ¬ fs.Creatable p → Afflicts lib words fs .memoryDump
  | listing {o : Options} {p : OsString} : lib.options words = .ok o →
      o.dumpOpcodes = some p → ¬ fs.Creatable p → Afflicts lib words fs .listing
  | window {o : Options} : lib.options words = .ok o → o.window = true →
      Afflicts lib words fs .window

/-- How the program ends, and how the files stand then, when it gives up at a trouble. -/
inductive GivesUp (lib : Libraries) (words : List OsString) (fs : Files) :
    Trouble → Ending × Files → Prop where
  | words {text : String} : lib.options words = .error (.refused text) →
      GivesUp lib words fs .words (.stopped (.refused text), fs)
  | filter {o : Options} {filter : String} {complaint : List String} :
      lib.options words = .ok o → o.logFilter = some filter →
      lib.judge filter = some complaint →
      GivesUp lib words fs .filter (.failed (.invalidLogFilter filter complaint), fs)
  | noCartridge {o : Options} : lib.options words = .ok o → o.rom = none →
      GivesUp lib words fs .noCartridge (.failed .noCartridge, fs)
  | cartridge {o : Options} {p : OsString} {e : CartridgeError} :
      lib.options words = .ok o → o.rom = some p → fs.LoadFails p e →
      GivesUp lib words fs .cartridge (.failed (.cartridgeNotLoaded p e), fs)
  | memoryDump {o : Options} {image : ByteArray} {p : OsString} {e : FileError} :
      lib.options words = .ok o → Loads o fs image → o.dumpMemory = some p →
      (∀ content, fs.write p content = .error e) →
      GivesUp lib words fs .memoryDump (.failed (.fileNotCreated p e), fs)
  | listing {o : Options} {image : ByteArray} {p : OsString} {e : FileError} {fs' : Files} :
      lib.options words = .ok o → Loads o fs image → o.dumpOpcodes = some p →
      (∀ content, fs'.write p content = .error e) →
      Dumped o.dumpMemory none (.ofImage image.data.toList) fs fs' →
      GivesUp lib words fs .listing (.failed (.fileNotCreated p e), fs')
  | window {o : Options} {image : ByteArray} {fs' : Files} :
      lib.options words = .ok o → Loads o fs image →
      Dumped o.dumpMemory o.dumpOpcodes (.ofImage image.data.toList) fs fs' →
      GivesUp lib words fs .window (.failed .noWindow, fs')

/-- No trouble comes up before the one of rank `n`. -/
def Clear (lib : Libraries) (words : List OsString) (fs : Files) (n : Nat) : Prop :=
  ∀ t, Afflicts lib words fs t → n ≤ t.rank

theorem clear_zero (lib : Libraries) (words : List OsString) (fs : Files) :
    Clear lib words fs 0 := fun _ _ => Nat.zero_le _

theorem clear_succ {t : Trouble} (h : Clear lib words fs t.rank) (ht : ¬ Afflicts lib words fs t) :
    Clear lib words fs (t.rank + 1) := by
  intro t' ht'
  refine Nat.lt_of_le_of_ne (h t' ht') fun heq => ht ?_
  rwa [Trouble.rank_injective heq]

theorem clear_of_options (ho : lib.options words = .ok o) : Clear lib words fs 1 := by
  refine clear_succ (clear_zero lib words fs) (t := .words) ?_
  rintro ⟨hrefused⟩
  cases ho.symm.trans hrefused

theorem clear_of_filter (ho : lib.options words = .ok o)
    (hfilter : ∀ filter ∈ o.logFilter, lib.judge filter = none) : Clear lib words fs 2 := by
  refine clear_succ (clear_of_options ho) (t := .filter) ?_
  rintro (_ | ⟨ho', hsome, he⟩)
  cases ho.symm.trans ho'
  cases (hfilter _ hsome).symm.trans he

theorem clear_of_rom {p : OsString} (h : Clear lib words fs 2) (ho : lib.options words = .ok o)
    (hp : o.rom = some p) : Clear lib words fs 3 := by
  refine clear_succ (t := .noCartridge) h ?_
  rintro (_ | _ | ⟨ho', hnone⟩)
  cases ho.symm.trans ho'
  cases hp.symm.trans hnone

theorem clear_of_holds {p : OsString} (h : Clear lib words fs 3) (ho : lib.options words = .ok o)
    (hp : o.rom = some p) (hholds : fs.Holds p image) : Clear lib words fs 4 := by
  refine clear_succ (t := .cartridge) h ?_
  rintro (_ | _ | _ | ⟨ho', hp', hfails⟩)
  cases ho.symm.trans ho'
  cases hp.symm.trans hp'
  exact hfails.not_holds hholds

theorem clear_of_memory (h : Clear lib words fs 4) (ho : lib.options words = .ok o)
    (hm : ∀ p ∈ o.dumpMemory, fs.Creatable p) : Clear lib words fs 5 := by
  refine clear_succ (t := .memoryDump) h ?_
  rintro (_ | _ | _ | _ | ⟨ho', hp, hfails⟩)
  cases ho.symm.trans ho'
  exact hfails (hm _ hp)

theorem clear_of_listing (h : Clear lib words fs 5) (ho : lib.options words = .ok o)
    (hl : ∀ p ∈ o.dumpOpcodes, fs.Creatable p) : Clear lib words fs 6 := by
  refine clear_succ (t := .listing) h ?_
  rintro (_ | _ | _ | _ | _ | ⟨ho', hp, hfails⟩)
  cases ho.symm.trans ho'
  exact hfails (hl _ hp)

theorem clear_of_no_window (h : Clear lib words fs 6) (ho : lib.options words = .ok o)
    (hwindow : o.window = false) : Clear lib words fs 7 := by
  refine clear_succ (t := .window) h ?_
  rintro (_ | _ | _ | _ | _ | _ | ⟨ho', hw⟩)
  cases ho.symm.trans ho'
  cases hwindow.symm.trans hw

/-! ### Giving up -/

theorem GivesUp.output {t : Trouble} {r : Ending × Files} (h : GivesUp lib words fs t r) :
    r.1.output = "" := by
  cases h <;> rfl

theorem GivesUp.code {t : Trouble} {r : Ending × Files} (h : GivesUp lib words fs t r) :
    r.1.code = t.code := by
  cases h <;> rfl

/-- The program gives up at the first trouble. -/
def GivesUpAtFirst (lib : Libraries) (words : List OsString) (fs : Files) : Prop :=
  ∃ t, Afflicts lib words fs t ∧ Clear lib words fs t.rank ∧
    GivesUp lib words fs t (onFiles lib words fs)

/-- A command line that nothing is wrong with up to the dumps. -/
structure Loaded (lib : Libraries) (words : List OsString) (fs : Files) (o : Options)
    (image : ByteArray) : Prop where
  options : lib.options words = .ok o
  filter : ∀ filter ∈ o.logFilter, lib.judge filter = none
  loads : Loads o fs image

namespace Loaded

theorem clear (h : Loaded lib words fs o image) : Clear lib words fs 4 := by
  obtain ⟨p, hp, hholds⟩ := h.loads
  have hrom : Clear lib words fs 3 := clear_of_rom (clear_of_filter h.options h.filter) h.options hp
  exact clear_of_holds hrom h.options hp hholds

theorem perform_prepare (h : Loaded lib words fs o image) :
    perform (prepare lib words) fs = perform (dumps o (.ofImage image.data.toList)) fs := by
  obtain ⟨p, hp, hholds⟩ := h.loads
  obtain ⟨c, hc, hbytes⟩ := Files.cartridge_of_holds hholds
  rw [Program.perform_prepare h.options h.filter, perform_bind_ok (perform_cartridge hp hc),
    Cartridge.memory, hbytes]
  rfl

theorem gives_up_at_memory {p : OsString} (h : Loaded lib words fs o image)
    (hp : o.dumpMemory = some p) (hfails : ¬ fs.Creatable p) : GivesUpAtFirst lib words fs := by
  obtain ⟨e, he, hperform⟩ := perform_dumps_of_memory hp hfails (.ofImage image.data.toList)
  refine ⟨.memoryDump, .memoryDump h.options hp hfails, h.clear, ?_⟩
  rw [onFiles_of_error (h.perform_prepare.trans hperform)]
  exact .memoryDump h.options h.loads hp he

theorem gives_up_at_listing {p : OsString} (h : Loaded lib words fs o image)
    (hm : ∀ p ∈ o.dumpMemory, fs.Creatable p) (hp : o.dumpOpcodes = some p)
    (hfails : ¬ fs.Creatable p) : GivesUpAtFirst lib words fs := by
  obtain ⟨e, fs', he, hdumped, hperform⟩ :=
    perform_dumps_of_listing hm hp hfails (.ofImage image.data.toList)
  refine ⟨.listing, .listing h.options hp hfails, clear_of_memory h.clear h.options hm, ?_⟩
  rw [onFiles_of_error (h.perform_prepare.trans hperform)]
  exact .listing h.options h.loads hp he hdumped

theorem gives_up_at_window (h : Loaded lib words fs o image)
    (hm : ∀ p ∈ o.dumpMemory, fs.Creatable p) (hl : ∀ p ∈ o.dumpOpcodes, fs.Creatable p)
    (hwindow : o.window = true) : GivesUpAtFirst lib words fs := by
  obtain ⟨fs', hdumped, hperform⟩ := perform_dumps hm hl (.ofImage image.data.toList)
  rw [hwindow] at hperform
  have hclear := clear_of_listing (clear_of_memory h.clear h.options hm) h.options hl
  refine ⟨.window, .window h.options hwindow, hclear, ?_⟩
  rw [onFiles_of_error (h.perform_prepare.trans hperform)]
  exact .window h.options h.loads hdumped

theorem reports (h : Loaded lib words fs o image) (hm : ∀ p ∈ o.dumpMemory, fs.Creatable p)
    (hl : ∀ p ∈ o.dumpOpcodes, fs.Creatable p) (hwindow : o.window = false) :
    ∃ fs', Dumped o.dumpMemory o.dumpOpcodes (.ofImage image.data.toList) fs fs' ∧
      onFiles lib words fs = (finish lib o (.ofImage image.data.toList), fs') := by
  obtain ⟨fs', hdumped, hperform⟩ := perform_dumps hm hl (.ofImage image.data.toList)
  rw [hwindow] at hperform
  exact ⟨fs', hdumped, onFiles_of_ok (h.perform_prepare.trans hperform)⟩

theorem gives_up_or_ends (h : Loaded lib words fs o image) :
    GivesUpAtFirst lib words fs ∨ Clear lib words fs 7 ∧ (onFiles lib words fs).1.code = 0 := by
  by_cases hm : ∀ p ∈ o.dumpMemory, fs.Creatable p
  · by_cases hl : ∀ p ∈ o.dumpOpcodes, fs.Creatable p
    · cases hwindow : o.window with
      | true => exact .inl (h.gives_up_at_window hm hl hwindow)
      | false =>
        have hclear := clear_of_listing (clear_of_memory h.clear h.options hm) h.options hl
        obtain ⟨fs', -, hreports⟩ := h.reports hm hl hwindow
        exact .inr ⟨clear_of_no_window hclear h.options hwindow, by rw [hreports]; rfl⟩
    · simp only [not_forall] at hl
      obtain ⟨p, hp, hfails⟩ := hl
      exact .inl (h.gives_up_at_listing hm hp hfails)
  · simp only [not_forall] at hm
    obtain ⟨p, hp, hfails⟩ := hm
    exact .inl (h.gives_up_at_memory hp hfails)

end Loaded

theorem gives_up_or_ends (ho : lib.options words = .ok o) :
    GivesUpAtFirst lib words fs ∨ Clear lib words fs 7 ∧ (onFiles lib words fs).1.code = 0 := by
  by_cases hfilter : ∀ filter ∈ o.logFilter, lib.judge filter = none
  · have hclear : Clear lib words fs 2 := clear_of_filter ho hfilter
    cases hp : o.rom with
    | none =>
      refine .inl ⟨.noCartridge, .noCartridge ho hp, hclear, ?_⟩
      rw [onFiles_of_error ((perform_prepare ho hfilter).trans
        (perform_bind_error (perform_cartridge_none hp)))]
      exact .noCartridge ho hp
    | some p =>
      have hclear := clear_of_rom hclear ho hp
      obtain ⟨image, hholds⟩ | ⟨e, hfails, he⟩ := fs.holds_or_loadFails p
      · exact Loaded.gives_up_or_ends ⟨ho, hfilter, p, hp, hholds⟩
      · refine .inl ⟨.cartridge, .cartridge ho hp hfails, hclear, ?_⟩
        rw [onFiles_of_error ((perform_prepare ho hfilter).trans
          (perform_bind_error (perform_cartridge_of_error hp he)))]
        exact .cartridge ho hp hfails
  · simp only [not_forall] at hfilter
    obtain ⟨filter, hsome, he⟩ := hfilter
    obtain ⟨e, he⟩ := Option.ne_none_iff_exists'.mp he
    refine .inl ⟨.filter, .filter ho hsome he, clear_of_options ho, ?_⟩
    rw [onFiles_of_error (perform_prepare_of_filter ho hsome he)]
    exact .filter ho hsome he

/-- The program gives up at the first trouble, if there is one. Up to the cartridge it leaves the
files as they are; later, the dumps before the trouble have been written, and nothing else. -/
theorem gives_up_at_first_trouble (lib : Libraries) (words : List OsString) (fs : Files) :
    ((onFiles lib words fs).1.code = 0 ∧ ∀ t, ¬ Afflicts lib words fs t) ∨
      ∃ t, Afflicts lib words fs t ∧ (∀ t', Afflicts lib words fs t' → t.rank ≤ t'.rank) ∧
        GivesUp lib words fs t (onFiles lib words fs) ∧
        (onFiles lib words fs).1.output = "" ∧ (onFiles lib words fs).1.code = t.code := by
  have hconclude : GivesUpAtFirst lib words fs ∨
      Clear lib words fs 7 ∧ (onFiles lib words fs).1.code = 0 := by
    cases hw : lib.options words with
    | ok o => exact gives_up_or_ends hw
    | error stop =>
      have hends : onFiles lib words fs = (.stopped stop, fs) :=
        onFiles_of_error (perform_prepare_of_stop hw)
      cases stop with
      | refused e =>
        refine .inl ⟨.words, .words hw, clear_zero lib words fs, ?_⟩
        rw [hends]
        exact .words hw
      | _ =>
        refine .inr ⟨?_, by rw [hends]; rfl⟩
        intro t ht
        cases ht with
        | words h => cases hw.symm.trans h
        | filter h | noCartridge h | cartridge h | memoryDump h | listing h | window h =>
          cases hw.symm.trans h
  obtain ⟨t, hafflicts, hclear, hgives⟩ | ⟨hclear, hcode⟩ := hconclude
  · exact .inr ⟨t, hafflicts, hclear, hgives, hgives.output, hgives.code⟩
  · refine .inl ⟨hcode, fun t ht => ?_⟩
    exact absurd (hclear t ht) (Nat.not_le_of_lt t.rank_lt)

/-! ### Reporting -/

variable {g : Options.Given}

/-- A command line that nothing is wrong with, on files with an image where it says. -/
structure Sound (lib : Libraries) (words : List OsString) (fs : Files) (g : Options.Given)
    (image : ByteArray) : Prop where
  words : lib.parse words = .ok g
  filter : ∀ filter ∈ g.log, lib.judge filter = none
  loads : Loads (.ofGiven g) fs image
  memory : ∀ p ∈ g.dumpMemory, fs.Creatable p
  listing : ∀ p ∈ g.dumpOpcodes, fs.Creatable p
  noWindow : g.window = false

theorem Sound.options (h : Sound lib words fs g image) :
    lib.options words = .ok (.ofGiven g) := by
  unfold Libraries.options
  rw [h.words]
  rfl

theorem Sound.reports (hlib : lib.judge.Documented) (h : Sound lib words fs g image) :
    ∃ fs', Dumped g.dumpMemory g.dumpOpcodes (.ofImage image.data.toList) fs fs' ∧
      onFiles lib words fs = (finish lib (.ofGiven g) (.ofImage image.data.toList), fs') :=
  Loaded.reports ⟨h.options, judge_of_given hlib h.filter, h.loads⟩ h.memory h.listing h.noWindow

/-- A sound command line whose run ends is answered by the report on the state that the run from
the image leads to. A trace, a filter and the dumps have no part in it, and the dumps show the
memory with the image as it was before the run, wherever they go. -/
theorem reports_of_sound (hlib : lib.judge.Documented) (h : Sound lib words fs g image)
    (hends : g.maxSteps = none →
      ∃ k, (Cpu.step^[k] (.ofImage image.data.toList)).isHalted = true) :
    let c := Cpu.ofImage image.data.toList
    let limit := g.maxSteps.map (·.toNat)
    let s := (c.run limit).2.snapshot
    let report := if g.json then s.json lib.print else s.table
    (∃ k, c.EndsAfter limit c.executed k (c.run limit)) ∧
    (∀ record, (c.run limit).1 = .halted record → record = s) ∧
    (onFiles lib words fs).1 = .reported report ∧
    (onFiles lib words fs).1.code = 0 ∧ (onFiles lib words fs).1.output = report ++ "\n" ∧
    (∀ words' fs' g', Sound lib words' fs' g' image → g'.maxSteps = g.maxSteps →
      g'.json = g.json → (onFiles lib words' fs').1 = (onFiles lib words fs).1) ∧
    Dumped g.dumpMemory g.dumpOpcodes c.mem fs (onFiles lib words fs).2 := by
  intro c limit s report
  obtain ⟨fs', hdumped, hreports⟩ := h.reports hlib
  obtain ⟨k, hk⟩ : ∃ k, c.EndsAfter limit c.executed k (c.run limit) :=
    Cpu.exists_endsAfter_run fun hnone => hends (Option.map_eq_none_iff.mp hnone)
  have hending : (onFiles lib words fs).1 = .reported report := by
    rw [hreports]
    rfl
  refine ⟨⟨k, hk⟩, fun _ => hk.record_eq, hending, ?_, ?_, ?_, ?_⟩
  · rw [hending]
    rfl
  · rw [hending]
    rfl
  · intro words' fs₂ g' h' hsteps hjson
    obtain ⟨fs₂', -, hreports'⟩ := h'.reports hlib
    rw [hreports, hreports']
    unfold finish Options.ofGiven
    rw [hsteps, hjson]
  · rw [hreports]
    exact hdumped

/-- One step of an image of a single byte; the memory dump goes where the image came from. -/
theorem reports_of_sound_one_step :
    let path := OsString.ofText "r.gb"
    let words := ["r.gb", "--trace", "--max-steps=1", "--dump-memory=r.gb"].map OsString.ofText
    let image : ByteArray := ⟨#[0x76]⟩
    let fs : Files := ⟨[], [([path], image)]⟩
    let g : Options.Given :=
      { rom := some path, maxSteps := some 1, trace := true, dumpMemory := some path }
    Sound Host.libraries words fs g image ∧ g.maxSteps ≠ none ∧
      (onFiles Host.libraries words fs).1.code = 0 ∧
      (onFiles Host.libraries words fs).2.read path =
        .ok (MemoryDump.text (.ofImage [0x76])).toUTF8 := by
  intro path words image fs g
  have hcreatable : fs.Creatable path := ⟨_, rfl⟩
  have h : Sound Host.libraries words fs g image :=
    { words := by decide
      filter := nofun
      loads := ⟨path, rfl, rfl, by decide, by decide⟩
      memory := by
        intro p hp
        cases hp
        exact hcreatable
      listing := nofun
      noWindow := rfl }
  obtain ⟨-, -, -, hcode, -, -, hdumped⟩ := reports_of_sound Host.documented_judge h nofun
  exact ⟨h, nofun, hcode, hdumped.memory path rfl nofun⟩

end Lr35902.Program
