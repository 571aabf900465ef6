import Mathlib.Data.List.Permutation
import RegexNfa.Console.Transcript
import RegexNfa.Proofs.Compilation

namespace RegexNfa

namespace Text.Line

/-- The lines of an input, not yet decoded. What stands behind the last line feed is a line unless it
is empty. -/
def rawLines (bytes : List UInt8) : List (List UInt8) :=
  let parts := bytes.splitOn lineFeed
  parts.dropLast.map dropReturn ++ parts.getLast?.toList.filter (· ≠ [])

variable {content : List UInt8}

theorem rawLines_nil : rawLines [] = [] := by
  simp [rawLines]

theorem rawLines_terminated (h : lineFeed ∉ content) (rest : List UInt8) :
    rawLines (content ++ lineFeed :: rest) = dropReturn content :: rawLines rest := by
  have hparts : rest.splitOn lineFeed ≠ [] := List.splitOn_ne_nil _ _
  simp only [rawLines, List.splitOn_append_cons_self_of_not_mem h,
    List.dropLast_cons_of_ne_nil hparts, List.map_cons, List.cons_append,
    List.getLast?_cons_of_ne_nil hparts]

theorem rawLines_unterminated (h : lineFeed ∉ content) (hne : content ≠ []) :
    rawLines content = [content] := by
  simp [rawLines, List.splitOn_eq_singleton h, hne]

theorem split_append (pending : List UInt8) (h : lineFeed ∉ content) (rest : List UInt8) :
    split pending (content ++ rest) = split (content.reverse ++ pending) rest := by
  induction content generalizing pending with
  | nil => rfl
  | cons b content ih =>
    have hb : b ≠ lineFeed := fun hb => h (by simp [hb])
    have hcontent : lineFeed ∉ content := fun hm => h (List.mem_cons_of_mem b hm)
    rw [List.cons_append, split, if_neg hb, ih (b :: pending) hcontent, List.reverse_cons,
      List.append_assoc, List.singleton_append]

theorem ofInput_terminated (h : lineFeed ∉ content) (rest : List UInt8) :
    ofInput (content ++ lineFeed :: rest) = ofTerminated content :: ofInput rest := by
  rw [ofInput, split_append [] h, split, if_pos rfl, List.append_nil, List.reverse_reverse, ofInput]

theorem ofInput_unterminated (h : lineFeed ∉ content) (hne : content ≠ []) :
    ofInput content = [ofBytes content] := by
  have hsplit := split_append [] h []
  rw [List.append_nil, List.append_nil] at hsplit
  rw [ofInput, hsplit, split, if_neg (by simp [hne]), List.reverse_reverse]

theorem ofInput_eq_map (bytes : List UInt8) : ofInput bytes = (rawLines bytes).map ofBytes := by
  by_cases hmem : lineFeed ∈ bytes
  · -- cut at the first line feed; what stands behind it is a shorter input
    obtain ⟨content, rest, rfl, h⟩ := List.eq_append_cons_of_mem hmem
    rw [ofInput_terminated h, rawLines_terminated h, ofInput_eq_map rest, List.map_cons,
      ofTerminated]
  · by_cases hne : bytes = []
    · subst hne
      rw [rawLines_nil]
      rfl
    · rw [ofInput_unterminated hmem hne, rawLines_unterminated hmem hne]
      rfl
  termination_by bytes.length
  decreasing_by
    subst_vars
    simp only [List.length_append, List.length_cons]
    omega

theorem ofBytes_eq (bytes : List UInt8) :
    ofBytes bytes = (decode? bytes).elim .undecodable .text := by
  rw [ofBytes]
  cases decode? bytes <;> rfl

theorem ofBytes_of_decode? {bytes : List UInt8} {text : String} (h : decode? bytes = some text) :
    ofBytes bytes = .text text := by
  rw [ofBytes_eq, h, Option.elim_some]

theorem ofInput_eq_of_decode? {bytes : List UInt8} {texts : List String}
    {later : List (Option String)}
    (h : (rawLines bytes).map decode? = texts.map some ++ later) :
    ofInput bytes = texts.map .text ++ later.map fun line => line.elim .undecodable .text := by
  have hdecode : ofBytes = (fun line => Option.elim line .undecodable .text) ∘ decode? :=
    funext ofBytes_eq
  rw [ofInput_eq_map, hdecode, ← List.map_map, h, List.map_append, List.map_map]
  rfl

end Text.Line

namespace Console

open Text (Line)
open Text.Line (rawLines decode? dropReturn lineFeed ofInput)

section Play

variable (folders : Folders)

theorem play_done {turn : Turn} {failure : Option Failure} (h : turn.request = .done failure)
    (lines : List Line) : play folders turn lines = ⟨turn.output, [], failure⟩ := by
  rw [play]
  split <;> simp_all

theorem play_line {turn : Turn} {waiting : Waiting} (h : turn.request = .line waiting)
    (line : Line) (rest : List Line) :
    play folders turn (line :: rest) =
      (play folders (receive waiting line) rest).after turn.output := by
  rw [play]
  split <;> simp_all

theorem play_end {turn : Turn} {waiting : Waiting} (h : turn.request = .line waiting) :
    play folders turn [] = ⟨turn.output, [], waiting.close⟩ := by
  rw [play]
  split <;> simp_all

theorem play_after (turn : Turn) (output : String) (lines : List Line) :
    play folders (turn.after output) lines = (play folders turn lines).after output := by
  obtain ⟨text, request⟩ := turn
  rw [play, play]
  cases request with
  | done failure => rfl
  | line waiting =>
    cases lines with
    | nil => rfl
    | cons line rest => simp [Turn.after]
  | save path a =>
    cases h : folders.create? path <;> simp [Turn.after, h]

variable (a : Automaton)

def answer (a : Automaton) (line : String) : String :=
  "=====================\nInput string to check\n" ++
    (if a.accepts (Text.trim line) then "true" else "false") ++ "\n"

theorem textPrompt_eq : textPrompt = "=====================\nInput string to check\n" := by
  rfl

theorem verdict_eq (b : Bool) : Text.verdict b = if b then "true" else "false" := by
  cases b <;> rfl

theorem textPrompt_append_verdict (line : String) :
    textPrompt ++ Text.unlines [Text.verdict (a.accepts (Text.trim line))] = answer a line := by
  unfold answer
  rw [Text.unlines_singleton, textPrompt_eq, verdict_eq, String.append_assoc]

theorem play_answer (line : String) (rest : List Line) :
    play folders (askText a) (.text line :: rest) =
      (play folders (askText a) rest).after (answer a line) := by
  have h : (askText a).request = .line (.text a) := rfl
  rw [play_line folders h, receive, play_after, Transcript.after_after,
    ← textPrompt_append_verdict a line]
  rfl

theorem play_answers (lines : List String) (later : List Line) :
    play folders (askText a) (lines.map .text ++ later) =
      (play folders (askText a) later).after (String.join (lines.map (answer a))) := by
  induction lines with
  | nil => simp
  | cons line lines ih =>
    -- once a line is answered, the session asks what it asked before
    rw [List.map_cons, List.cons_append, play_answer, ih, Transcript.after_after, List.map_cons,
      String.join_cons]

end Play

theorem transcript_first_line {options : Options} (folders : Folders)
    (hs : options.skipSelfTest = true) (line : String) (rest : List Line) :
    transcript { options with expression := none } folders (.text line :: rest) =
      (transcript { options with expression := some (Text.trim line) } folders rest).after
        "Input regex\n" := by
  have hprompt : expressionPrompt = "Input regex\n" := rfl
  have hasked : start { options with expression := none } =
      ⟨expressionPrompt, .line (.expression { options with expression := none })⟩ := by
    simp only [start, hs, ↓reduceIte]
  have hgiven : start { options with expression := some (Text.trim line) } =
      receive (.expression { options with expression := none }) (.text line) := by
    simp only [start, hs, ↓reduceIte, receive, begin]
  rw [transcript, transcript, hasked, hgiven, ← hprompt]
  exact play_line folders rfl _ _

section Compiled

/-- All that can be seen of a session: its output, files, exit code and error stream. -/
structure Transcript.Shows (t : Transcript) (output : String) (code : UInt32) (errors : String) :
    Prop where
  output : t.output = output
  drawings : t.drawings = []
  code : exitCode t.failure = code
  errors : errorText t.failure = errors

def dialogue (a : Automaton) (lines : List String) : String :=
  a.listing ++ "\n" ++ String.join (lines.map (answer a)) ++
    "=====================\nInput string to check\n"

variable {e : String} {a : Automaton} {options : Options} (folders : Folders)
  (hc : compile e = .ok a) (he : options.expression = some e)
  (hs : options.skipSelfTest = true) (hd : options.drawing = none)

include hc he hs hd

theorem start_of_compile : start options = (askText a).after (a.listing ++ "\n") := by
  simp only [start, begin, he, hs, hd, hc, ↓reduceIte, Text.unlines_singleton]

theorem transcript_of_compile (lines : List String) (later : List Line) :
    transcript options folders (lines.map .text ++ later) =
      (play folders (askText a) later).after
        (a.listing ++ "\n" ++ String.join (lines.map (answer a))) := by
  rw [transcript, start_of_compile hc he hs hd, play_after, play_answers, Transcript.after_after]

theorem shows_end (lines : List String) :
    (transcript options folders (lines.map .text)).Shows (dialogue a lines) 0 "" := by
  have h := transcript_of_compile folders hc he hs hd lines []
  rw [List.append_nil, play_end folders rfl] at h
  rw [h]
  exact ⟨rfl, rfl, rfl, rfl⟩

theorem shows_undecodable (lines : List String) (later : List Line) :
    (transcript options folders (lines.map .text ++ .undecodable :: later)).Shows
      (dialogue a lines) 1 (Failure.report .unreadable) := by
  rw [transcript_of_compile folders hc he hs hd, play_line folders rfl, play_done folders rfl]
  exact ⟨rfl, rfl, rfl, rfl⟩

end Compiled

section Arguments

variable {e : String} {a : Automaton} {o : Options}

theorem toList_ne_hyphen (hc : compile e = .ok a) (rest : List Char) : e.toList ≠ '-' :: rest := by
  intro he
  exact absurd (Expression.isAllowed_of_compile hc '-' (by simp [he])) (by decide)

theorem read_proceed {arg : String} {o' : Options} (hterminator : arg ≠ "--") (hdot : arg ≠ "--dot")
    (h : o.argument arg = .proceed o') (rest : List String) : o.read (arg :: rest) = o'.read rest := by
  rw [Options.read.eq_def]
  simp [hterminator, hdot, h]

theorem read_skipSelfTest (h : o.skipSelfTest = false) (rest : List String) :
    o.read ("--skip-self-test" :: rest) = { o with skipSelfTest := true }.read rest := by
  refine read_proceed (by decide) (by decide) ?_ rest
  simp [Options.argument, Options.long, Options.withSkipSelfTest, h]

theorem read_expression (hc : compile e = .ok a) (h : o.expression = none) (rest : List String) :
    o.read (e :: rest) = { o with expression := some e }.read rest := by
  -- not beginning with a hyphen, it is taken for no option
  refine read_proceed ?_ ?_ ?_ rest
  · rintro rfl
    exact toList_ne_hyphen hc _ rfl
  · rintro rfl
    exact toList_ne_hyphen hc _ rfl
  · unfold Options.argument
    split
    · next he => exact absurd he (toList_ne_hyphen hc _)
    · next he => exact absurd he (toList_ne_hyphen hc _)
    · simp [Options.withExpression, h]

theorem ofArguments_of_compile (hc : compile e = .ok a) :
    ∀ arguments ∈ [["--skip-self-test", e], [e, "--skip-self-test"]],
      Command.ofArguments arguments =
        some (.run { expression := some e, skipSelfTest := true }) := by
  simp only [List.forall_mem_cons, Command.ofArguments]
  refine ⟨?_, ?_, by simp⟩
  · rw [read_skipSelfTest rfl, read_expression hc rfl, Options.read]
  · rw [read_expression hc rfl, read_skipSelfTest rfl, Options.read]

end Arguments

theorem transcript_answers {e : String} {a : Automaton} (hc : compile e = .ok a)
    (folders : Folders) :
    (∀ arguments ∈ [["--skip-self-test", e], [e, "--skip-self-test"]],
      Command.ofArguments arguments =
        some (.run { expression := some e, skipSelfTest := true })) ∧
    ∀ options : Options, options.expression = some e → options.skipSelfTest = true →
      options.drawing = none →
        (∀ bytes lines, (rawLines bytes).map decode? = lines.map some →
          (transcript options folders (ofInput bytes)).Shows (dialogue a lines) 0 "") ∧
        (∀ bytes lines later, (rawLines bytes).map decode? = lines.map some ++ none :: later →
          (transcript options folders (ofInput bytes)).Shows (dialogue a lines) 1
            ("Error: could not read from stdin\n\nCaused by:\n" ++
              "    stream did not contain valid UTF-8\n")) ∧
        ∀ line, Text.trim line = e →
          (∀ first rest, lineFeed ∉ first → decode? (dropReturn first) = some line →
            transcript { options with expression := none } folders
                (ofInput (first ++ lineFeed :: rest)) =
              (transcript options folders (ofInput rest)).after "Input regex\n") ∧
          ∀ last, lineFeed ∉ last → decode? last = some line →
            transcript { options with expression := none } folders (ofInput last) =
              (transcript options folders (ofInput [])).after "Input regex\n" := by
  refine ⟨ofArguments_of_compile hc, ?_⟩
  intro options he hs hd
  refine ⟨?_, ?_, ?_⟩
  · intro bytes lines h
    rw [← List.append_nil (lines.map some)] at h
    rw [Line.ofInput_eq_of_decode? h, List.map_nil, List.append_nil]
    exact shows_end folders hc he hs hd lines
  · intro bytes lines later h
    rw [Line.ofInput_eq_of_decode? h]
    exact shows_undecodable folders hc he hs hd lines _
  · rintro line rfl
    have hgiven : { options with expression := some (Text.trim line) } = options := by
      rw [← he]
    refine ⟨?_, ?_⟩
    · intro first rest hfeed hline
      rw [Line.ofInput_terminated hfeed, Line.ofTerminated, Line.ofBytes_of_decode? hline,
        transcript_first_line folders hs, hgiven]
    · intro last hfeed hline
      have hne : last ≠ [] := by
        rintro rfl
        obtain rfl : "" = line := Option.some.inj hline
        cases hc
      rw [Line.ofInput_unterminated hfeed hne, Line.ofBytes_of_decode? hline,
        transcript_first_line folders hs, hgiven]
      rfl

theorem transcript_answers_starred :
    ∃ a, compile "a*" = .ok a ∧
      (rawLines [97, 97, 13, 10, 32, 98]).map decode? = [some "aa", some " b"] ∧
      (transcript { expression := some "a*", skipSelfTest := true } ⟨[], []⟩
        (ofInput [97, 97, 13, 10, 32, 98])).Shows (dialogue a ["aa", " b"]) 0 "" ∧
      dialogue a ["aa", " b"] =
        "(0, ε, 1)\n(1, a, 2)\n(2, ε, 3)\n(2, ε, 1)\n(0, ε, 3)\n" ++
          "Start state: 0  |  Final state: 3\n" ++
          "=====================\nInput string to check\ntrue\n" ++
          "=====================\nInput string to check\nfalse\n" ++
          "=====================\nInput string to check\n" ∧
      (rawLines [97, 10, 255, 10, 97]).map decode? = [some "a", none, some "a"] ∧
      (transcript { expression := some "a*", skipSelfTest := true } ⟨[], []⟩
        (ofInput [97, 10, 255, 10, 97])).Shows (dialogue a ["a"]) 1
          ("Error: could not read from stdin\n\nCaused by:\n" ++
            "    stream did not contain valid UTF-8\n") ∧
      Text.trim " a*" = "a*" ∧ decode? (dropReturn [32, 97, 42, 13]) = some " a*" ∧
      transcript { skipSelfTest := true } ⟨[], []⟩ (ofInput [32, 97, 42, 13, 10, 97]) =
        (transcript { expression := some "a*", skipSelfTest := true } ⟨[], []⟩
          (ofInput [97])).after "Input regex\n" ∧
      transcript { skipSelfTest := true } ⟨[], []⟩ (ofInput [97, 42, 32]) =
        (transcript { expression := some "a*", skipSelfTest := true } ⟨[], []⟩
          (ofInput [])).after "Input regex\n" := by
  have hc : compile "a*" = .ok (.ofFragment (.star (.literal 'a'))) := by
    rfl
  have hlines : (rawLines [97, 97, 13, 10, 32, 98]).map decode? = [some "aa", some " b"] := by
    decide
  have hread : (Automaton.ofFragment (.star (.literal 'a'))).accepts "aa" = true := by
    cbv
  have hunread : (Automaton.ofFragment (.star (.literal 'a'))).accepts "b" = false := by
    cbv
  have hbroken : (rawLines [97, 10, 255, 10, 97]).map decode? = [some "a", none, some "a"] := by
    decide
  have htrim : Text.trim " a*" = "a*" ∧ Text.trim "aa" = "aa" ∧ Text.trim " b" = "b" := by
    decide
  have hdecode : decode? (dropReturn [32, 97, 42, 13]) = some " a*" := by
    decide
  obtain ⟨hend, hundecodable, hfirst⟩ := (transcript_answers hc ⟨[], []⟩).2
    { expression := some "a*", skipSelfTest := true } rfl rfl rfl
  refine ⟨_, hc, hlines, hend _ ["aa", " b"] hlines, ?_, hbroken, hundecodable _ ["a"] _ hbroken,
    htrim.1, hdecode, (hfirst " a*" htrim.1).1 _ [97] (by decide) hdecode,
    (hfirst "a* " (by decide)).2 _ (by decide) (by decide)⟩
  unfold dialogue
  rw [List.map_cons, List.map_cons, List.map_nil]
  unfold answer
  rw [htrim.2.1, htrim.2.2, hread, hunread]
  decide +kernel

end Console

end RegexNfa
