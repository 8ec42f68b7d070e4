import AerWatch.Proofs.Monitor.FullRead

/-!
# Lines that come later

A monitor that is not to read the log in full goes to the end of it in the first cycle that succeeds.
From then on each parser is fed every line that becomes complete, once and in order, whatever cycles
fail on the way. A cycle in which a device fails does not touch the log, so what is appended before the
first one that succeeds is passed over, too.
-/

namespace AerWatch

open Log Monitor

section Results

theorem eq_ok_of_isOk {ε : Type} {result : Except ε Unit} (h : result.isOk) : result = .ok () := by
  cases result with
  | ok => rfl
  | error e => simp [Except.isOk, Except.toBool] at h

end Results

section Parsers

variable {path : String} {identity : Nat} {file : List UInt8} {fs : FileSystem} {replay : Bool}
  {q q' : LogParser}

/-- A parser of the log at a path that has not opened it. -/
structure IsUnopened (path : String) (q : LogParser) : Prop where
  path : q.path = path
  offset : q.offset = none

/-- A parser of the log at a path that goes on at byte `n` of the file. -/
structure GoesOn (path : String) (identity n : Nat) (q : LogParser) : Prop where
  path : q.path = path
  identity : q.identity = some identity
  offset : q.offset = some n

/-- What becomes of a parser that can take lines, apart from the message under way. -/
theorem read_of_take_ok {taken : List String} (h : q.take fs replay = (q', .ok taken)) :
    canRead fs replay q ∧ linesTaken fs replay q = taken ∧
      ∃ pending, parserAfter fs replay q = { q' with pending } := by
  have hread : q.read fs replay =
      ({ q' with pending := (assembleAll q'.rules q'.pending taken).1 },
        .ok (assembleAll q'.rules q'.pending taken).2) := by
    simp only [LogParser.read, h]
  refine ⟨canRead_of_ok hread, ?_, (assembleAll q'.rules q'.pending taken).1, ?_⟩
  · rw [linesTaken, h]
    rfl
  · rw [parserAfter, hread]

variable (hfile : fs.openFile path = .ok ⟨identity, .regular file⟩)
include hfile

/-- A parser that opens the log passes over what it holds. -/
theorem IsUnopened.read (h : IsUnopened path q) :
    canRead fs false q ∧ linesTaken fs false q = [] ∧
      GoesOn path identity file.length (parserAfter fs false q) := by
  obtain ⟨hcan, htaken, pending, hafter⟩ :=
    read_of_take_ok (take_of_not_replay (h.path.symm ▸ hfile) h.offset)
  refine ⟨hcan, htaken, ?_⟩
  rw [hafter]
  exact ⟨h.path, rfl, rfl⟩

/-- A parser that goes on in the log takes in what has become complete. -/
theorem GoesOn.read {base seen more : List UInt8}
    (h : GoesOn path identity (base.length + completeLength seen) q) (hmore : file = base ++ more)
    (hseen : seen <+: more) (replay : Bool) :
    canRead fs replay q ∧
      linesTaken fs replay q = completeLines (more.drop (completeLength seen)) ++ [""] ∧
      GoesOn path identity (base.length + completeLength more) (parserAfter fs replay q) := by
  obtain ⟨hcan, htaken, pending, hafter⟩ :=
    read_of_take_ok (take_of_grown (h.path.symm ▸ hfile) hmore hseen h.identity h.offset replay)
  refine ⟨hcan, htaken, ?_⟩
  rw [hafter]
  exact ⟨h.path, rfl, rfl⟩

end Parsers

section Lines

/-- The lines fed are those that are complete in `bytes`, each once and in order. Every read adds an
empty text behind those that it took in. -/
def FedOnce (bytes : List UInt8) (fed : List String) : Prop :=
  ∃ parts : List (List String), parts.flatten = completeLines bytes ∧
    fed = parts.flatMap fun part => part ++ [""]

theorem fedOnce_nil : FedOnce [] [] := ⟨[], rfl, rfl⟩

theorem FedOnce.append {seen bytes : List UInt8} {fed : List String} (h : FedOnce seen fed)
    (hseen : seen <+: bytes) :
    FedOnce bytes (fed ++ (completeLines (bytes.drop (completeLength seen)) ++ [""])) := by
  obtain ⟨parts, hparts, rfl⟩ := h
  refine ⟨parts ++ [completeLines (bytes.drop (completeLength seen))], ?_, ?_⟩
  · rw [List.flatten_concat, hparts, (completeLines_of_grown hseen).1]
  · simp

end Lines

/-! ### Runs -/

namespace Watch

variable (path : String) (identity : Nat)

/-- What the log held in the first cycle of a run that succeeded, if one did. -/
def baseline? : Watch → List Turn → Option (List UInt8)
  | _, [] => none
  | w, .append chunk :: turns => baseline? (w.step path identity (.append chunk)) turns
  | w, .cycle bus fs missing :: turns =>
    if (w.monitor.read bus (w.platform path identity fs missing)).result.isOk then some w.file
    else baseline? (w.step path identity (.cycle bus fs missing)) turns

/-- No cycle has succeeded so far. -/
structure Waiting (count : Nat) (w : Watch) : Prop where
  firstRead : w.monitor.firstRead = false
  length : w.monitor.parsers.length = count
  parsers : ∀ q ∈ w.monitor.parsers, IsUnopened path q
  fed : ∀ i, w.fed i = []

/-- The first cycle that succeeded found `base` in the log, and the last one found `seen` behind it. -/
structure Tailing (count : Nat) (base seen : List UInt8) (w : Watch) : Prop where
  length : w.monitor.parsers.length = count
  parsers : ∀ q ∈ w.monitor.parsers, GoesOn path identity (base.length + completeLength seen) q
  grown : ∃ more, w.file = base ++ more ∧ seen <+: more
  fed : ∀ i < count, FedOnce seen (w.fed i)

section Step

variable {path identity} {count : Nat} {base seen : List UInt8} {w : Watch} {bus : Option Bus}
  {fs : FileSystem} {missing : Option FileFault}

/-- The log as the parsers find it when it is there. -/
theorem openFile_platform (w : Watch) (fs : FileSystem) :
    (w.platform path identity fs none).openFile path = .ok ⟨identity, .regular w.file⟩ :=
  FileSystem.openFile_withFile ..

theorem fed_cycle (i : Nat) :
    (w.step path identity (.cycle bus fs missing)).fed i =
      w.fed i ++ w.monitor.lineShare bus (w.platform path identity fs missing) i := rfl

theorem lineShare_of_completed {platform : FileSystem}
    (h : Completed w.monitor bus platform (w.monitor.read bus platform)) {i : Nat}
    (hi : i < w.monitor.parsers.length) :
    w.monitor.lineShare bus platform i =
      linesTaken platform w.monitor.firstRead w.monitor.parsers[i] := by
  rw [lineShare, readers_of_completed h, List.getElem?_eq_getElem hi, Option.elim_some]

theorem Waiting.ends (h : Waiting path count w) (hcount : count ≠ 0) (bus : Option Bus)
    (fs : FileSystem) (missing : Option FileFault) : Ends path identity w bus fs missing := by
  refine ends_of_canRead (fun hnil => hcount ?_) (fun q hq => (h.parsers q hq).path)
    (fun q hq => ?_) bus missing
  · rw [← h.length, hnil, List.length_nil]
  · rw [h.firstRead]
    exact ((h.parsers q hq).read (openFile_platform w fs)).1

theorem Waiting.idle (h : Waiting path count w)
    (hidle : Idle w.monitor bus (w.platform path identity fs missing)) :
    Waiting path count (w.step path identity (.cycle bus fs missing)) where
  firstRead := hidle.firstRead.trans h.firstRead
  length := hidle.parsers.symm ▸ h.length
  parsers := hidle.parsers.symm ▸ h.parsers
  fed i := by rw [fed_cycle, hidle.lineShare, h.fed, List.append_nil]

/-- The first cycle that succeeds takes in nothing. -/
theorem Waiting.completed (h : Waiting path count w)
    (hr : Completed w.monitor bus (w.platform path identity fs none)
      (w.monitor.read bus (w.platform path identity fs none))) :
    Tailing path identity count w.file [] (w.step path identity (.cycle bus fs none)) where
  length := by rw [step, hr.parsers, List.length_map, h.length]
  parsers := by
    rw [step, hr.parsers, h.firstRead]
    refine List.forall_mem_map.mpr fun q hq => ?_
    exact ((h.parsers q hq).read (openFile_platform w fs)).2.2
  grown := ⟨[], (List.append_nil _).symm, List.prefix_rfl⟩
  fed i hi := by
    have hi' : i < w.monitor.parsers.length := h.length.symm ▸ hi
    have hfile : (w.platform path identity fs none).openFile path = _ := openFile_platform w fs
    have htaken := ((h.parsers _ (List.getElem_mem hi')).read hfile).2.1
    rw [fed_cycle, lineShare_of_completed hr hi', h.firstRead, htaken, h.fed]
    exact fedOnce_nil

theorem Tailing.read {more : List UInt8} (h : Tailing path identity count base seen w)
    (hmore : w.file = base ++ more) (hseen : seen <+: more) {q : LogParser}
    (hq : q ∈ w.monitor.parsers) (fs : FileSystem) :
    let platform := w.platform path identity fs none
    canRead platform w.monitor.firstRead q ∧
      linesTaken platform w.monitor.firstRead q =
        completeLines (more.drop (completeLength seen)) ++ [""] ∧
      GoesOn path identity (base.length + completeLength more)
        (parserAfter platform w.monitor.firstRead q) :=
  (h.parsers q hq).read (openFile_platform w fs) hmore hseen w.monitor.firstRead

theorem Tailing.ends (h : Tailing path identity count base seen w) (hcount : count ≠ 0)
    (bus : Option Bus) (fs : FileSystem) (missing : Option FileFault) :
    Ends path identity w bus fs missing := by
  obtain ⟨more, hmore, hseen⟩ := h.grown
  refine ends_of_canRead (fun hnil => hcount ?_) (fun q hq => (h.parsers q hq).path)
    (fun q hq => (h.read hmore hseen hq fs).1) bus missing
  rw [← h.length, hnil, List.length_nil]

theorem Tailing.append (h : Tailing path identity count base seen w) (chunk : List UInt8) :
    Tailing path identity count base seen (w.step path identity (.append chunk)) where
  length := h.length
  parsers := h.parsers
  grown := by
    obtain ⟨more, hmore, hseen⟩ := h.grown
    refine ⟨more ++ chunk, ?_, hseen.trans (List.prefix_append ..)⟩
    rw [step, hmore, List.append_assoc]
  fed := h.fed

theorem Tailing.idle (h : Tailing path identity count base seen w)
    (hidle : Idle w.monitor bus (w.platform path identity fs missing)) :
    Tailing path identity count base seen (w.step path identity (.cycle bus fs missing)) where
  length := hidle.parsers.symm ▸ h.length
  parsers := hidle.parsers.symm ▸ h.parsers
  grown := h.grown
  fed i hi := by
    rw [fed_cycle, hidle.lineShare, List.append_nil]
    exact h.fed i hi

/-- Every later cycle that succeeds takes in what has become complete. -/
theorem Tailing.completed {more : List UInt8} (h : Tailing path identity count base seen w)
    (hmore : w.file = base ++ more) (hseen : seen <+: more)
    (hr : Completed w.monitor bus (w.platform path identity fs none)
      (w.monitor.read bus (w.platform path identity fs none))) :
    Tailing path identity count base more (w.step path identity (.cycle bus fs none)) where
  length := by rw [step, hr.parsers, List.length_map, h.length]
  parsers := by
    rw [step, hr.parsers]
    exact List.forall_mem_map.mpr fun q hq => (h.read hmore hseen hq fs).2.2
  grown := ⟨more, hmore, List.prefix_rfl⟩
  fed i hi := by
    have hi' : i < w.monitor.parsers.length := h.length.symm ▸ hi
    rw [fed_cycle, lineShare_of_completed hr hi',
      (h.read hmore hseen (List.getElem_mem hi') fs).2.1]
    exact (h.fed i hi).append hseen

theorem Tailing.step (h : Tailing path identity count base seen w) (hcount : count ≠ 0)
    (turn : Turn) : ∃ seen, Tailing path identity count base seen (w.step path identity turn) := by
  cases turn with
  | append chunk => exact ⟨seen, h.append chunk⟩
  | cycle bus fs missing =>
    cases h.ends hcount bus fs missing with
    | completed _ hr =>
      obtain ⟨more, hmore, hseen⟩ := h.grown
      exact ⟨more, h.completed hmore hseen hr⟩
    | idle _ hidle => exact ⟨seen, h.idle hidle⟩

variable (identity) in
/-- What a run brings a monitor to none of whose cycles had succeeded before. -/
theorem Waiting.run (h : Waiting path count w) (hcount : count ≠ 0) (turns : List Turn) :
    match baseline? path identity w turns with
    | none => Waiting path count (w.run path identity turns)
    | some base => ∃ seen, Tailing path identity count base seen (w.run path identity turns) := by
  induction turns generalizing w with
  | nil => exact h
  | cons turn turns ih =>
    cases turn with
    | append chunk => exact ih ⟨h.firstRead, h.length, h.parsers, h.fed⟩
    | cycle bus fs missing =>
      cases h.ends hcount bus fs missing with
      | completed _ hr =>
        have hbase : baseline? path identity w (.cycle bus fs none :: turns) = some w.file := by
          rw [baseline?, hr.result]
          rfl
        rw [hbase]
        exact run_induction path identity
          (motive := fun w' => ∃ seen, Tailing path identity count w.file seen w') turns
          ⟨[], h.completed hr⟩ fun _ turn ⟨_, h⟩ => h.step hcount turn
      | idle _ hidle =>
        have hbase : baseline? path identity w (.cycle bus fs missing :: turns) =
            baseline? path identity (w.step path identity (.cycle bus fs missing)) turns :=
          if_neg fun hok => hidle.result (eq_ok_of_isOk hok)
        rw [hbase]
        exact ih (h.idle hidle)

end Step

section Sample

open Fleet

end Sample

end Watch

end AerWatch
