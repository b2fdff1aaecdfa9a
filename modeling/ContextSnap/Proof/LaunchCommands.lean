import ContextSnap.Hal.LinuxProcesses

/-!
# Launched command lines

A command line is documented to leave out the program. What is read of a live process on Linux has
it in front, and so has what `execv` is called with, but `build_launch_command` puts the path of the
executable in front of it once more.
-/

namespace ContextSnap.Hal.Linux

open Matching (isOneShot newWindow launchesBrowser buildLaunchCommand normalizeAppId)

/-- What a live process was started with. -/
structure Argv where
  program : Bytes
  arguments : List Bytes
  nonempty : ∀ argument ∈ program :: arguments, argument ≠ []
  noNul : ∀ argument ∈ program :: arguments, 0 ∉ argument

namespace Argv

variable (argv : Argv)

def list : List Bytes := argv.program :: argv.arguments

/-- The text under `/proc`, where a NUL closes every argument. -/
def cmdline : Bytes := argv.list.flatMap (· ++ [0])

/-- What is read of a process that was started so. -/
def process (pid : UInt64) (exe cwd : Bytes) (user : Option Bytes) (euid : UInt32) : ProcessInfo :=
  readProcess pid { exe, cwd, cmdline := argv.cmdline } user euid

/-- The command that the documentation asks for. -/
def replayed (process : ProcessInfo) : List Bytes :=
  process.executablePath :: argv.arguments.filter (fun argument => !(isOneShot argument))
    ++ if launchesBrowser process && !argv.arguments.contains newWindow then [newWindow] else []

theorem replayed_eq (process : ProcessInfo) :
    argv.replayed process
      = process.executablePath :: argv.arguments.filter (fun argument => !(isOneShot argument))
        ++ if launchesBrowser process ∧ newWindow ∉ argv.arguments then [newWindow] else [] := by
  simp [replayed]

end Argv

section Reading

variable (argv : Argv) (pid : UInt64) (exe cwd : Bytes) (user : Option Bytes) (euid : UInt32)

theorem pieces_terminated {texts : List Bytes} (h : ∀ text ∈ texts, 0 ∉ text) :
    pieces 0 (texts.flatMap (· ++ [0])) = texts := by
  induction texts with
  | nil => rfl
  | cons text rest ih =>
      obtain ⟨htext, hrest⟩ := List.forall_mem_cons.mp h
      rw [List.flatMap_cons, List.append_assoc, List.singleton_append, pieces_append_cons htext,
        ih hrest]

/-- The whole command line is read, with the program. -/
theorem readCmdline_cmdline : readCmdline argv.cmdline = argv.list := by
  have hpieces : pieces 0 argv.cmdline = argv.list := pieces_terminated argv.noNul
  rw [readCmdline, hpieces, List.filter_eq_self]
  exact fun argument hargument => decide_eq_true (argv.nonempty argument hargument)

theorem commandLine_process : (argv.process pid exe cwd user euid).commandLine = argv.list :=
  readCmdline_cmdline argv

theorem executablePath_process : (argv.process pid exe cwd user euid).executablePath
    = if exe = [] then argv.program else exe := by
  rw [Argv.process, readProcess, readCmdline_cmdline]
  cases exe with
  | nil => rfl
  | cons c exe => rfl

theorem appId_process : (argv.process pid exe cwd user euid).appId
    = normalizeAppId (argv.process pid exe cwd user euid).executablePath := rfl

theorem executablePath_ne_nil : (argv.process pid exe cwd user euid).executablePath ≠ [] := by
  rw [executablePath_process]
  split
  · exact argv.nonempty argv.program (List.mem_cons_self ..)
  · assumption

/-- **What is launched** is started as the process was. -/
theorem launch_process : launch (argv.process pid exe cwd user euid)
    = .ok { workingDirectory := cwd, path := (argv.process pid exe cwd user euid).executablePath
            argv := argv.list } := by
  have hpath := executablePath_ne_nil argv pid exe cwd user euid
  have hlist : argv.list ≠ [] := List.cons_ne_nil _ _
  rw [launch, if_neg hpath, commandLine_process, if_neg hlist]
  rfl

end Reading

/-! ### The launch command -/

section Command

variable {argv : Argv} {pid : UInt64} {exe cwd : Bytes} {user : Option Bytes} {euid : UInt32}

theorem isOneShot_newWindow : isOneShot newWindow = false := by decide

theorem newWindow_mem_filter {arguments : List Bytes} :
    newWindow ∈ arguments.filter (fun argument => !(isOneShot argument))
      ↔ newWindow ∈ arguments := by
  rw [List.mem_filter, isOneShot_newWindow]
  exact and_iff_left rfl

/-- A program of that name is no browser. -/
theorem executablePath_ne_newWindow
    (h : launchesBrowser (argv.process pid exe cwd user euid) = true) :
    (argv.process pid exe cwd user euid).executablePath ≠ newWindow := by
  intro hpath
  have hid : normalizeAppId newWindow = str "new window" := by decide
  rw [launchesBrowser, appId_process, hpath, hid] at h
  revert h
  decide

/-- The arguments of the command that is built. -/
theorem buildLaunchCommand_process :
    buildLaunchCommand (argv.process pid exe cwd user euid) .linux
      = (argv.process pid exe cwd user euid).executablePath
          :: argv.list.filter (fun argument => !(isOneShot argument))
        ++ if launchesBrowser (argv.process pid exe cwd user euid) ∧ newWindow ∉ argv.list
            then [newWindow] else [] := by
  have hpath := executablePath_ne_nil argv pid exe cwd user euid
  rw [buildLaunchCommand, if_neg fun hnone => hpath hnone.1]
  simp only [if_neg hpath, commandLine_process]
  cases hbrowser : launchesBrowser (argv.process pid exe cwd user euid) with
  | false => simp
  | true =>
      have hname := executablePath_ne_newWindow hbrowser
      by_cases hmem : newWindow ∈ argv.list
      · have hkept := newWindow_mem_filter.mpr hmem
        simp [hmem, hkept]
      · have hnone := mt newWindow_mem_filter.mp hmem
        simp [hmem, hnone, Ne.symm hname]

/-- What may stand in front of a list instead of something new behind it. -/
theorem eq_of_cons_append {α : Type} {x y : α} {kept extra : List α} (hy : y ∉ kept)
    (h : x :: kept ++ extra = kept ++ [y]) : kept = [] ∧ x = y := by
  have hextra : extra = [] := by
    have hlength := congrArg List.length h
    simp only [List.length_append, List.length_cons, List.length_nil] at hlength
    exact List.length_eq_zero_iff.mp (by omega)
  cases kept with
  | nil => exact ⟨rfl, (List.cons.inj h).1⟩
  | cons c kept =>
      rw [hextra, List.append_nil] at h
      have htail : c :: kept = kept ++ [y] := (List.cons.inj h).2
      exact absurd (htail ▸ List.mem_append_right kept (List.mem_singleton_self y)) hy

/-- When the program in front of the arguments makes no difference. -/
theorem command_eq_iff (path program : Bytes) (arguments : List Bytes) (browser : Bool) :
    (path :: (program :: arguments).filter (fun argument => !(isOneShot argument))
        ++ if browser ∧ newWindow ∉ program :: arguments then [newWindow] else [])
      = (path :: arguments.filter (fun argument => !(isOneShot argument))
        ++ if browser ∧ newWindow ∉ arguments then [newWindow] else [])
      ↔ isOneShot program = true ∨ program = newWindow ∧ browser = true
        ∧ ∀ argument ∈ arguments, isOneShot argument = true := by
  by_cases hshot : isOneShot program = true
  · -- The program is left out as a one-shot argument, and is not `--new-window` then.
    have hne : newWindow ≠ program := by
      rintro rfl
      exact absurd (isOneShot_newWindow.symm.trans hshot) Bool.false_ne_true
    refine iff_of_true ?_ (.inl hshot)
    rw [List.filter_cons_of_neg (by simp [hshot])]
    simp [hne]
  · rw [or_iff_right hshot, List.filter_cons_of_pos (by simpa using hshot)]
    constructor
    · intro h
      have htail := (List.cons.inj h).2
      by_cases hadded : browser = true ∧ newWindow ∉ arguments
      · rw [if_pos hadded] at htail
        obtain ⟨hnone, hprogram⟩ := eq_of_cons_append (mt newWindow_mem_filter.mp hadded.2) htail
        refine ⟨hprogram, hadded.1, fun argument hargument => ?_⟩
        simpa using List.filter_eq_nil_iff.mp hnone argument hargument
      · have hlength := congrArg List.length htail
        rw [if_neg hadded] at hlength
        simp only [List.append_eq, List.length_append, List.length_cons, List.length_nil] at hlength
        omega
    · rintro ⟨rfl, rfl, hall⟩
      have hnone : arguments.filter (fun argument => !(isOneShot argument)) = [] := by
        rw [List.filter_eq_nil_iff]
        exact fun argument hargument => by simp [hall argument hargument]
      have hmem : newWindow ∉ arguments := fun hmem =>
        absurd (isOneShot_newWindow.symm.trans (hall _ hmem)) Bool.false_ne_true
      simp [hnone, hmem]

variable (argv pid exe cwd user euid)

/-- A process is started again as it was, and the command for it has each argument once. -/
structure KeepsConvention : Prop where
  launched : launch (argv.process pid exe cwd user euid)
    = .ok { workingDirectory := cwd, path := (argv.process pid exe cwd user euid).executablePath
            argv := argv.list }
  replayed : buildLaunchCommand (argv.process pid exe cwd user euid) .linux
    = argv.replayed (argv.process pid exe cwd user euid)

/-- The program does not show up as an argument: it is left out like one, or it stands where the
command would end anyway. -/
def ProgramHidden : Prop :=
  isOneShot argv.program = true
    ∨ argv.program = newWindow ∧ launchesBrowser (argv.process pid exe cwd user euid) = true
      ∧ ∀ argument ∈ argv.arguments, isOneShot argument = true

/-- **The convention** is kept exactly if the program is hidden. -/
theorem keepsConvention_iff :
    KeepsConvention argv pid exe cwd user euid ↔ ProgramHidden argv pid exe cwd user euid := by
  have hlaunched := launch_process argv pid exe cwd user euid
  have hbuilt : buildLaunchCommand (argv.process pid exe cwd user euid) .linux = _ :=
    buildLaunchCommand_process
  have hsame := command_eq_iff (argv.process pid exe cwd user euid).executablePath argv.program
    argv.arguments (launchesBrowser (argv.process pid exe cwd user euid))
  rw [ProgramHidden, ← hsame, ← argv.replayed_eq]
  exact ⟨fun h => hbuilt.symm.trans h.replayed, fun h => ⟨hlaunched, hbuilt.trans h⟩⟩

end Command

/-! ### An editor -/

def editorArgv : Argv where
  program := str "code"
  arguments := [str "--wait"]
  nonempty := by decide
  noNul := by decide

/-- The name of the program comes back as an argument. -/
theorem not_keepsConvention :
    ¬∀ (argv : Argv) (pid : UInt64) (exe cwd : Bytes) (user : Option Bytes) (euid : UInt32),
      KeepsConvention argv pid exe cwd user euid := by
  intro h
  have hcommand := (h editorArgv 1 (str "/usr/bin/code") (str "/home") none 1000).replayed
  revert hcommand
  decide

end ContextSnap.Hal.Linux
