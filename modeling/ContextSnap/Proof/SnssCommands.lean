import ContextSnap.Browser.SessionChromium

/-!
# The command stream of a session file

A command is its size, its id and its payload, and nothing that follows a complete command changes
how it is read. The loop of `parse_snss` therefore walks over an encoded list command by command and
stops in the first one that is cut.
-/

namespace ContextSnap.Browser.Session

open Buffer

/-- A command in the file: the size of what follows, the id and the payload. -/
def SnssCommand.encode (command : SnssCommand) : Bytes :=
  bytes16 (command.payload.length + 1) ++ command.id :: command.payload

def encodeCommands (commands : List SnssCommand) : Bytes := commands.flatMap SnssCommand.encode

/-- The commands that end within the first `cut` bytes of their encoding. -/
def completeCommands : Nat → List SnssCommand → List SnssCommand
  | _, [] => []
  | cut, command :: commands =>
      if command.encode.length ≤ cut then
        command :: completeCommands (cut - command.encode.length) commands
      else
        []

/-- The size field has room for the id and the payload. -/
def SnssCommand.Fits (command : SnssCommand) : Prop := command.payload.length ≤ 65534

theorem SnssCommand.length_encode (command : SnssCommand) :
    command.encode.length = command.payload.length + 3 := by
  simp [encode, bytes16]

theorem encodeCommands_cons (command : SnssCommand) (commands : List SnssCommand) :
    encodeCommands (command :: commands) = command.encode ++ encodeCommands commands :=
  List.flatMap_cons

theorem completeCommands_of_le {commands : List SnssCommand} {cut : Nat}
    (h : (encodeCommands commands).length ≤ cut) : completeCommands cut commands = commands := by
  induction commands generalizing cut with
  | nil => rfl
  | cons command commands ih =>
      rw [encodeCommands_cons, List.length_append] at h
      rw [completeCommands, if_pos (by omega), ih (by omega)]

/-! ### One round -/

section Round

variable {data front back : Bytes} {offset : Nat} {commands : List SnssCommand}
  {command : SnssCommand}

theorem parseSnssBody_cases (data : Bytes) (offset : Nat) (commands : List SnssCommand) :
    parseSnssBody data (offset, commands) = .ok (.inr commands) ∨
      ∃ command : SnssCommand, command.Fits ∧ offset + 3 + command.payload.length ≤ data.length ∧
        parseSnssBody data (offset, commands)
          = .ok (.inl (offset + 3 + command.payload.length, commands ++ [command])) := by
  by_cases hroom : offset + 3 ≤ data.length
  · have hsize : littleEndian16 data[offset] data[offset + 1] < 65536 := by
      rw [littleEndian16_eq]
      have hlow := data[offset].toNat_lt
      have hhigh := data[offset + 1].toNat_lt
      omega
    rw [parseSnssBody, if_pos hroom, read_of_lt (by omega), read_of_lt (by omega)]
    simp only [bind, Except.bind, pure, Except.pure]
    generalize littleEndian16 data[offset] data[offset + 1] = size at hsize
    by_cases hstop : size = 0 ∨ offset + 2 + size > data.length
    · exact .inl (if_pos hstop)
    · rw [if_neg hstop, read_of_lt (by omega)]
      simp only
      rw [readMany_of_le (by omega)]
      have hlength : ((data.drop (offset + 2 + 1)).take (size - 1)).length = size - 1 := by
        rw [List.length_take_of_le]
        rw [List.length_drop]
        omega
      have hnext : offset + 3 + (size - 1) = offset + 2 + size := by omega
      refine .inr ⟨⟨data[offset + 2], (data.drop (offset + 2 + 1)).take (size - 1)⟩, ?_, ?_, ?_⟩
      · rw [SnssCommand.Fits, hlength]
        omega
      · rw [hlength]
        omega
      · rw [hlength, hnext]
  · left
    rw [parseSnssBody, if_neg hroom]
    rfl

theorem parseSnssBody_isOk (data : Bytes) (state : Nat × List SnssCommand) :
    ∃ next, parseSnssBody data state = .ok next := by
  rcases parseSnssBody_cases data state.1 state.2 with hstop | ⟨command, -, -, hagain⟩
  · exact ⟨_, hstop⟩
  · exact ⟨_, hagain⟩

def unread (data : Bytes) (state : Nat × List SnssCommand) : Nat := data.length - state.1

theorem parseSnssBody_moves {state next : Nat × List SnssCommand}
    (h : parseSnssBody data state = .ok (.inl next)) : unread data next < unread data state := by
  rcases parseSnssBody_cases data state.1 state.2 with hstop | ⟨command, -, hroom, hagain⟩
  · rw [hstop] at h
    cases h
  · rw [hagain] at h
    cases h
    simp only [unread]
    omega

theorem parseSnssBody_sized {id : UInt8} {size : Nat} (hsize : size ≤ 65534)
    (hdata : data = front ++ (bytes16 (size + 1) ++ id :: back)) :
    parseSnssBody data (front.length, commands)
      = if back.length < size then .ok (.inr commands)
        else .ok (.inl (front.length + 3 + size,
          commands ++ [{ id, payload := back.take size }])) := by
  have hlength : data.length = front.length + (back.length + 3) := by
    rw [hdata, List.length_append]
    rfl
  have hcells : data
      = front ++ ((size + 1).toUInt8 :: ((size + 1) / 256).toUInt8 :: id :: back) := hdata
  have hlow : read data front.length = .ok (size + 1).toUInt8 := by
    rw [hcells, read_append_length]
  have hhigh : read data (front.length + 1) = .ok ((size + 1) / 256).toUInt8 := by
    rw [hcells, read_append_right, read_cons_succ, read_cons_zero]
  rw [parseSnssBody, if_pos (by omega), hlow, hhigh]
  simp only [bind, Except.bind, pure, Except.pure,
    littleEndian16_bytes16 (n := size + 1) (by omega)]
  by_cases hcut : back.length < size
  · rw [if_pos hcut, if_pos (by omega)]
  · have hid : read data (front.length + 2) = .ok id := by
      rw [hcells, read_append_right, read_cons_succ, read_cons_succ, read_cons_zero]
    have hpayload : readMany data (front.length + 2 + 1) (size + 1 - 1) = .ok (back.take size) := by
      rw [hcells, Nat.add_assoc, readMany_append_right, readMany_cons_succ, readMany_cons_succ,
        readMany_cons_succ, Nat.add_sub_cancel, readMany_of_le (by omega), List.drop_zero]
    rw [if_neg hcut, if_neg (by omega), hid]
    simp only [hpayload, Except.ok.injEq, Sum.inl.injEq, Prod.mk.injEq, and_true]
    omega

/-- A complete command is read, whatever follows it. -/
theorem parseSnssBody_complete (hfits : command.Fits)
    (hdata : data = front ++ (command.encode ++ back)) :
    parseSnssBody data (front.length, commands)
      = .ok (.inl ((front ++ command.encode).length, commands ++ [command])) := by
  have hcells : data = front ++ (bytes16 (command.payload.length + 1)
      ++ command.id :: (command.payload ++ back)) := by
    rw [hdata, SnssCommand.encode, List.append_assoc, List.cons_append]
  rw [parseSnssBody_sized hfits hcells, if_neg (by simp), List.take_left, List.length_append,
    command.length_encode, Nat.add_assoc, Nat.add_comm 3]

/-- What is left of a command that is cut ends the loop. -/
theorem parseSnssBody_cut {cut : Nat} (hfits : command.Fits) (hcut : cut < command.encode.length)
    (hdata : data = front ++ command.encode.take cut) :
    parseSnssBody data (front.length, commands) = .ok (.inr commands) := by
  have hlength : data.length = front.length + cut := by
    rw [hdata, List.length_append, List.length_take_of_le (by omega)]
  rw [command.length_encode] at hcut
  by_cases hshort : cut < 3
  · rw [parseSnssBody, if_neg (by omega)]
    rfl
  · obtain ⟨more, rfl⟩ : ∃ more, cut = more + 3 := ⟨cut - 3, by omega⟩
    have hcells : data = front ++ (bytes16 (command.payload.length + 1)
        ++ command.id :: command.payload.take more) := hdata
    rw [parseSnssBody_sized hfits hcells, if_pos]
    rw [List.length_take_of_le (by omega)]
    omega

end Round

/-! ### The whole file -/

/-- The loop reads the commands of an encoded list that are complete. -/
theorem returns_parseSnssBody (commands read : List SnssCommand) (front data : Bytes) (cut : Nat)
    (hfits : ∀ command ∈ commands, command.Fits)
    (hdata : data = front ++ (encodeCommands commands).take cut) :
    Loop.Returns (parseSnssBody data) commands.length (front.length, read)
      (read ++ completeCommands cut commands) := by
  induction commands generalizing front cut read with
  | nil =>
      have hstop : parseSnssBody data (front.length, read) = .ok (.inr read) := by
        rw [hdata, parseSnssBody, if_neg (by simp [encodeCommands])]
        rfl
      rw [completeCommands, List.append_nil]
      exact Loop.Returns.done hstop 0
  | cons command commands ih =>
      have hcommand := hfits command List.mem_cons_self
      rw [encodeCommands_cons] at hdata
      by_cases hcomplete : command.encode.length ≤ cut
      · rw [List.take_append, List.take_of_length_le hcomplete] at hdata
        rw [completeCommands, if_pos hcomplete, List.append_cons]
        refine Loop.Returns.again (parseSnssBody_complete hcommand hdata) ?_
        refine ih (read ++ [command]) (front ++ command.encode) _
          (fun other hother => hfits other (List.mem_cons_of_mem _ hother)) ?_
        rw [hdata, List.append_assoc]
      · rw [List.take_append_of_le_length (by omega)] at hdata
        rw [completeCommands, if_neg hcomplete, List.append_nil]
        exact Loop.Returns.done (parseSnssBody_cut hcommand (by omega) hdata) _

def notSnssFile : Error := Err.protocol (str "not an SNSS session file") (str "browser.session")

def parsedCommands : List SnssCommand → Result (List SnssCommand)
  | [] => .error (Err.protocol (str "session file contained no commands") (str "browser.session"))
  | commands => .ok commands

theorem parseSnss_loop_isOk (data : Bytes) : ∃ commands,
    Loop.run (parseSnssBody data) .endless (data.length - 8 + 1) (8, []) = .ok commands :=
  Loop.run_isOk (fun _ _ => parseSnssBody_moves) (parseSnssBody_isOk data)
    (Nat.lt_succ_self (unread data (8, [])))

theorem parseSnss_isOk (data : Bytes) : ∃ result, parseSnss data = .ok result := by
  unfold parseSnss
  split
  · exact ⟨_, rfl⟩
  · obtain ⟨commands, hcommands⟩ := parseSnss_loop_isOk data
    rw [hcommands]
    simp only [bind, Except.bind, pure, Except.pure]
    split <;> exact ⟨_, rfl⟩

theorem fits_of_parseSnss {data : Bytes} {commands : List SnssCommand}
    (h : parseSnss data = .ok (.ok commands)) : ∀ command ∈ commands, command.Fits := by
  obtain ⟨found, hfound⟩ := parseSnss_loop_isOk data
  rw [parseSnss, hfound] at h
  simp only [bind, Except.bind, pure, Except.pure] at h
  split at h
  next => cases h
  next =>
    split at h
    next => cases h
    next =>
      cases h
      refine Loop.run_ok (P := fun state commands => (∀ command ∈ state.2, command.Fits) →
        ∀ command ∈ commands, command.Fits) ?_ ?_ hfound (by simp)
      · rintro ⟨offset, read⟩ found hbody hread
        rcases parseSnssBody_cases data offset read with hstop | ⟨command, -, -, hagain⟩
        · rw [hstop] at hbody
          cases hbody
          exact hread
        · rw [hagain] at hbody
          cases hbody
      · rintro ⟨offset, read⟩ ⟨offset', read'⟩ found hbody hnext hread
        rcases parseSnssBody_cases data offset read with hstop | ⟨command, hfits, -, hagain⟩
        · rw [hstop] at hbody
          cases hbody
        · rw [hagain] at hbody
          cases hbody
          refine hnext fun other hother => ?_
          obtain hother | hother := List.mem_append.mp hother
          · exact hread other hother
          · exact List.mem_singleton.mp hother ▸ hfits

theorem parseSnss_take {header : Bytes} {commands : List SnssCommand} {cut : Nat}
    (hheader : header.length = 8) (hmagic : header.take 4 = str "SNSS")
    (hfits : ∀ command ∈ commands, command.Fits) (hcut : 8 ≤ cut) :
    parseSnss ((header ++ encodeCommands commands).take cut)
      = .ok (parsedCommands (completeCommands (cut - 8) commands)) := by
  have hdata : (header ++ encodeCommands commands).take cut
      = header ++ (encodeCommands commands).take (cut - 8) := by
    rw [List.take_append, List.take_of_length_le (by omega), hheader]
  rw [hdata]
  generalize hall : header ++ (encodeCommands commands).take (cut - 8) = data
  have hlength : 8 ≤ data.length := by
    rw [← hall, List.length_append]
    omega
  have htake : data.take 4 = str "SNSS" := by
    rw [← hall, List.take_append_of_le_length (by omega), hmagic]
  have hreturns := returns_parseSnssBody commands [] header data (cut - 8) hfits hall.symm
  rw [hheader, List.nil_append] at hreturns
  have hrun : Loop.run (parseSnssBody data) .endless (data.length - 8 + 1) (8, [])
      = .ok (completeCommands (cut - 8) commands) :=
    hreturns.run_of_lt (fun _ _ => parseSnssBody_moves) (Nat.lt_succ_self (unread data (8, [])))
  rw [parseSnss, if_neg (by rw [htake]; simp; omega), hrun]
  cases completeCommands (cut - 8) commands <;> rfl

/-- **The command stream.** An encoded list is read back, a cut one up to the command that is cut,
and no input at all leads to a read out of range or to an endless loop. -/
theorem parseSnss_encoded :
    (∀ (header : Bytes) (commands : List SnssCommand), header.length = 8 →
      header.take 4 = str "SNSS" → commands ≠ [] → (∀ command ∈ commands, command.Fits) →
      parseSnss (header ++ encodeCommands commands) = .ok (.ok commands) ∧
      ∀ cut, parseSnss ((header ++ encodeCommands commands).take cut)
        = .ok (if cut < 8 then .error notSnssFile
            else parsedCommands (completeCommands (cut - 8) commands))) ∧
    ∀ data, ∃ result, parseSnss data = .ok result := by
  refine ⟨fun header commands hheader hmagic hcommands hfits => ⟨?_, fun cut => ?_⟩, parseSnss_isOk⟩
  · have hall := parseSnss_take hheader hmagic hfits
      (Nat.le_add_right 8 (encodeCommands commands).length)
    rw [List.take_of_length_le (by rw [List.length_append]; omega), Nat.add_sub_cancel_left,
      completeCommands_of_le (Nat.le_refl _)] at hall
    rw [hall]
    cases commands with
    | nil => exact absurd rfl hcommands
    | cons command commands => rfl
  · split
    next hcut =>
      rw [parseSnss, if_pos]
      · rfl
      · rw [List.length_take]
        omega
    next hcut => exact parseSnss_take hheader hmagic hfits (by omega)

/-- Two commands, of which the second is cut in its payload. -/
theorem parseSnss_encoded_cut :
    parseSnss ((str "SNSS" ++ [1, 0, 0, 0] ++ encodeCommands
      [{ id := 20 }, { id := 7, payload := [5, 6] }]).take 15) = .ok (.ok [{ id := 20 }]) :=
  ((parseSnss_encoded.1 (str "SNSS" ++ [1, 0, 0, 0]) [{ id := 20 }, { id := 7, payload := [5, 6] }]
    (by decide) (by decide) (by decide) (by simp [SnssCommand.Fits])).2 15).trans rfl

end ContextSnap.Browser.Session
