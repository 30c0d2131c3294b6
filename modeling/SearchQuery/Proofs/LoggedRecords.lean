-- What a log shows of records that come without values and details. Those at its level and above
-- have lines of their own, which are the same, but for the time, whether a record is a text with
-- places or an event with details.
import Mathlib.Data.List.Forall2
import SearchQuery.Log.Threshold

namespace SearchQuery.Log

/-! ## Records -/

namespace Message

/-- The name that the message is logged under. -/
def logger : Message → String
  | .plain logger .. | .structured logger .. => logger

/-- What is said, nothing if it is nothing. -/
def said? : Message → Option Value
  | .plain _ _ template _ => some (.text template)
  | .structured _ _ .null _ => none
  | .structured _ _ event _ => some event

/-- The message has no values for its places, and no details. -/
def Bare : Message → Prop
  | .plain _ _ _ values => values = []
  | .structured _ _ _ details => details = []

/-- The same is said under the same name and at the same level, in one way or the other. -/
structure Restates (m m' : Message) : Prop where
  bare : m'.Bare
  logger : m'.logger = m.logger
  level : m'.level = m.level
  said : m'.said? = m.said?

theorem Bare.restates_itself {m : Message} (hm : m.Bare) : m.Restates m := ⟨hm, rfl, rfl, rfl⟩

/-- A text and the event of that text restate each other. -/
theorem restates_event (logger : String) (level : Level) (text : String) :
    (plain logger level text []).Restates (structured logger level (.text text) []) ∧
      (structured logger level (.text text) []).Restates (plain logger level text []) :=
  ⟨⟨rfl, rfl, rfl, rfl⟩, ⟨rfl, rfl, rfl, rfl⟩⟩

/-- What a bare message says, by name. -/
def bareEntry (time : String) (m : Message) : Entry :=
  m.said?.toList.map (fun event => ("event", readable event)) ++
    [("logger", .text (loggerName m.logger)), ("level", .text m.level.name),
      ("timestamp", .text time)]

theorem entry?_bare {m : Message} (hm : m.Bare) (time : String) :
    m.entry? time = .ok (some (m.bareEntry time)) := by
  cases m with
  | plain logger level template values =>
    obtain rfl : values = [] := hm
    rfl
  | structured logger level event details =>
    obtain rfl : details = [] := hm
    cases event <;> rfl

end Message

/-- A record: a message, and the time when it is logged. -/
structure Logged where
  time : String
  message : Message

/-! ## Lines around a time -/

/-- The text in front of a time, and the text behind it. -/
structure Frame where
  front : String
  back : String

/-- A time as it stands in a text. -/
def Format.timeShown (f : Format) (time : String) : String :=
  match f with
  | .json => String.ofList (time.toList.flatMap (Json.escaped true))
  | .console => time

/-- The text of a time in its frame. -/
def Format.fill (f : Format) (time : String) (frame : Frame) : String :=
  frame.front ++ f.timeShown time ++ frame.back

/-- A name in JSON with the text of its value. -/
def jsonPair (name text : String) : String := Json.quoted true name ++ ": " ++ text

/-- What is said, as it stands in a text. JSON has no form for some values, and numbers may be
too long to be written. -/
def Format.saidShown? (f : Format) (said? : Option Value) : Option String :=
  match f, said? with
  | _, none => some ""
  | .json, some event =>
    (Json.writeAt {} 1 (readable event)).toOption.map fun text => jsonPair "event" text ++ ", "
  | .console, some event =>
    ((readable event).inWords Value.display).toOption.map fun text =>
      inked [.bright] (fillUp 30 text) ++ " "

/-- A level in its column. -/
def levelColumn (level : Level) : String :=
  "[" ++ inked [levelInk level, .bright] (fillUp 9 level.name) ++ "]"

/-- The text around the time of a bare message, which says this. -/
def Format.frame (f : Format) (m : Message) (said : String) : Frame :=
  let name := loggerName m.logger
  match f with
  | .json => {
    front := "\x7b" ++ said ++ jsonPair "logger" (Json.quoted true name) ++ ", " ++
      jsonPair "level" (Json.quoted true m.level.name) ++ ", " ++ jsonPair "timestamp" "\""
    back := "\"" ++ "\x7d" }
  | .console => {
    front := Ink.dim.mark
    back := Ink.plain.mark ++ " " ++ levelColumn m.level ++ " " ++ said ++
      bracketedName (.text name) }

/-- The frame of a bare message. There is none if what is said has no form. -/
def Format.frame? (f : Format) (m : Message) : Option Frame :=
  (f.saidShown? m.said?).map (f.frame m)

/-- The lines of a time in a frame. -/
def Format.filled (f : Format) (frame? : Option Frame) (time : String) : List String :=
  match frame? with
  | some frame => linesOf (f.fill time frame ++ "\n")
  | none => []

/-- The lines of a bare record. -/
def Format.shown (f : Format) (r : Logged) : List String := f.filled (f.frame? r.message) r.time

/-! ## Texts of entries -/

theorem quoted_parts (s : String) :
    Json.quoted true s = "\"" ++ String.ofList (s.toList.flatMap (Json.escaped true)) ++ "\"" := by
  apply String.toList_inj.mp
  simp [Json.quoted]

theorem writeEntries_texts (level : Nat) (texts : List (String × String)) :
    Json.writeEntries {} level (texts.map fun (key, s) => (.text key, .text s)) =
      .ok (texts.map fun (key, s) => jsonPair key (Json.quoted true s)) := by
  induction texts with
  | nil => rfl
  | cons entry texts ih =>
    rw [List.map_cons, Json.writeEntries, ih]
    rfl

/-- Parts between braces, on one line. -/
theorem bracketed_cons (part : String) (parts : List String) :
    Json.Layout.bracketed {} 0 "\x7b" "\x7d" (part :: parts) =
      "\x7b" ++ ", ".intercalate (part :: parts) ++ "\x7d" := by
  simp [Json.Layout.bracketed, Json.Layout.newLine]

theorem text?_json (time : String) (m : Message) :
    Format.json.text? m.level (m.bareEntry time) =
      (Format.json.frame? m).map (Format.json.fill time) := by
  have htexts := writeEntries_texts 0
    [("logger", loggerName m.logger), ("level", m.level.name), ("timestamp", time)]
  simp only [List.map_cons, List.map_nil, quoted_parts time] at htexts
  unfold Format.text? Format.frame? Json.write Value.ofFields Message.bareEntry Format.saidShown?
  cases m.said? with
  | none =>
    simp only [Option.toList, List.map_nil, List.nil_append, List.map_cons, Json.writeAt, htexts]
    show some (Json.Layout.bracketed {} 0 "\x7b" "\x7d" (_ :: _)) = some _
    rw [bracketed_cons]
    simp only [Format.fill, Format.frame, Format.timeShown, jsonPair, String.empty_append,
      String.intercalate_cons_cons, String.intercalate_singleton, String.append_assoc]
  | some event =>
    simp only [Option.toList, List.map_cons, List.map_nil, List.cons_append, List.nil_append,
      Json.writeAt]
    rw [Json.writeEntries, htexts]
    -- An event may have no form in JSON; then there is neither a text nor a frame.
    cases Json.writeAt {} 1 (readable event) with
    | error fault => rfl
    | ok text =>
      show some (Json.Layout.bracketed {} 0 "\x7b" "\x7d" (_ :: _)) = some _
      rw [bracketed_cons]
      simp only [Format.fill, Format.frame, Format.timeShown, jsonPair,
        String.intercalate_cons_cons, String.intercalate_singleton, String.append_assoc]

/-- A line that ends with a name between brackets has no blank at its end. -/
theorem dropEnd_bracketedName (s : String) (v : Value) :
    Text.dropEnd ' ' (s ++ bracketedName v) = s ++ bracketedName v := by
  have hmark : Ink.plain.mark.toList = ['\x1b', '[', '0', 'm'] := by decide
  apply String.toList_inj.mp
  simp [Text.dropEnd, bracketedName, hmark]

/-- All that a bare message says stands in the columns. -/
theorem colouredLine_bare (time : String) (m : Message) :
    colouredLine m.level (m.bareEntry time) = Text.dropEnd ' ' (" ".intercalate
      ([inked [.dim] time, levelColumn m.level] ++
        m.said?.toList.map (fun event => inked [.bright] (fillUp 30 (readable event).display)) ++
        [bracketedName (.text (loggerName m.logger))])) := by
  unfold colouredLine Message.bareEntry
  cases m.said? <;> simp [columns, belowLine, Entries.has, List.lookup_cons, levelColumn]

/-- Nothing of a bare message stands below its line, so it has one unless what it says cannot be
written. -/
theorem coloured?_bare (time : String) (m : Message) :
    coloured? m.level (m.bareEntry time) =
      if m.said?.any fun event => (readable event).isOverlong then none
      else some (colouredLine m.level (m.bareEntry time)) := by
  have hunshown : (m.bareEntry time).any isUnshown =
      m.said?.any fun event => (readable event).isOverlong := by
    unfold Message.bareEntry
    cases m.said? <;> simp [isUnshown, belowLine, Value.isOverlong]
  have hbelow : ∀ name ∈ belowLine, (m.bareEntry time).lookup name = none := by
    unfold Message.bareEntry
    cases m.said? <;> simp [belowLine, List.lookup_cons]
  have hstack := hbelow "stack" (by decide)
  have hexception := hbelow "exception" (by decide)
  have hinfo := hbelow "exc_info" (by decide)
  unfold coloured?
  rw [hunshown]
  split
  · rfl
  · simp [part?, hstack, hexception, hinfo, below?]

theorem text?_console (time : String) (m : Message) :
    Format.console.text? m.level (m.bareEntry time) =
      (Format.console.frame? m).map (Format.console.fill time) := by
  have hdim : inked [.dim] time = Ink.dim.mark ++ time ++ Ink.plain.mark := by
    simp [inked, String.join]
  unfold Format.text? Format.frame? Format.saidShown?
  rw [coloured?_bare, colouredLine_bare, hdim]
  -- The line has two blanks between columns, or three, and ends with the name.
  cases m.said? with
  | none =>
    simp only [Option.toList, List.map_nil, List.append_nil, List.cons_append, List.nil_append,
      String.intercalate_cons_cons, String.intercalate_singleton, ← String.append_assoc,
      dropEnd_bracketedName, Option.any_none]
    simp [Format.fill, Format.frame, Format.timeShown, String.append_assoc]
  | some event =>
    simp only [Option.toList, List.map_nil, List.map_cons, List.cons_append, List.nil_append,
      String.intercalate_cons_cons, String.intercalate_singleton, ← String.append_assoc,
      dropEnd_bracketedName, Option.any_some, Value.inWords]
    split
    · rfl
    · simp [Format.fill, Format.frame, Format.timeShown, String.append_assoc, Except.toOption]

theorem text?_bare (f : Format) (time : String) (m : Message) :
    f.text? m.level (m.bareEntry time) = (f.frame? m).map (f.fill time) := by
  cases f with
  | json => exact text?_json time m
  | console => exact text?_console time m

/-! ## One record -/

/-- A bare record shows its lines if it counts. -/
theorem Setup.linesOf_bare (s : Setup) {r : Logged} (hr : r.message.Bare) :
    s.linesOf r.time r.message =
      .ok (if s.threshold ≤ r.message.level.weight then s.format.shown r else []) := by
  have hentry := Message.entry?_bare hr r.time
  -- The details of a bare event pass their check, so both kinds meet the threshold first.
  have hstart : s.linesOf r.time r.message =
      if r.message.level.weight < s.threshold then .ok [] else
        .ok (s.entryLines r.message.level (r.message.bareEntry r.time)) := by
    unfold Setup.linesOf
    rw [hentry]
    obtain ⟨time, m⟩ := r
    cases m with
    | plain => rfl
    | structured logger level event details =>
      obtain rfl : details = [] := hr
      rfl
  rw [hstart]
  obtain hlow | hcounts := Nat.lt_or_ge r.message.level.weight s.threshold
  · rw [if_pos hlow, if_neg (Nat.not_le.mpr hlow)]
  · rw [if_neg (Nat.not_lt.mpr hcounts), if_pos hcounts, Setup.entryLines,
      if_neg (Nat.not_lt.mpr hcounts), Format.lines, text?_bare]
    cases hframe : s.format.frame? r.message <;> simp [Format.shown, Format.filled, hframe]

/-- A text with a line end behind it has the pieces of the text as its lines. -/
theorem linesOf_ended (s : String) :
    linesOf (s ++ "\n") = (Text.splitAll '\n' s.toList).map String.ofList := by
  have hchars : (s ++ "\n").toList = s.toList ++ '\n' :: [] := by simp
  rw [linesOf, hchars, Text.splitAll_joined]
  simp [Text.splitAll]

/-- A record of a text is never passed over. -/
theorem Format.shown_text_ne_nil (f : Format) {r : Logged} {text : String}
    (hr : r.message.said? = some (.text text)) : f.shown r ≠ [] := by
  have hframe : ∃ frame, f.frame? r.message = some frame := by
    rw [Format.frame?, hr]
    cases f <;> exact ⟨_, rfl⟩
  obtain ⟨frame, hframe⟩ := hframe
  rw [Format.shown, hframe, Format.filled, linesOf_ended]
  exact fun hnone => Text.splitAll_ne_nil _ _ (List.map_eq_nil_iff.mp hnone)

theorem Message.Restates.frame?_eq {m m' : Message} (h : m.Restates m') (f : Format) :
    f.frame? m' = f.frame? m := by
  have hframe : f.frame m' = f.frame m := by
    funext said
    cases f <;> simp only [Format.frame, h.logger, h.level]
  rw [Format.frame?, Format.frame?, h.said, hframe]

/-! ## All records -/

/-- The lines of records, one after the other. -/
def Setup.linesAt (s : Setup) (records : List Logged) : Except Fault (List String) :=
  return (← records.mapM fun r => s.linesOf r.time r.message).flatten

/-- Messages may be logged at one time. -/
theorem Setup.lines_eq_linesAt (s : Setup) (time : String) (messages : List Message) :
    s.lines time messages = s.linesAt (messages.map (Logged.mk time)) := by
  rw [Setup.lines, Setup.linesAt, List.mapM_map]
  rfl

theorem Setup.linesAt_cons {s : Setup} {r : Logged} {records : List Logged}
    {first rest : List String} (hfirst : s.linesOf r.time r.message = .ok first)
    (hrest : s.linesAt records = .ok rest) : s.linesAt (r :: records) = .ok (first ++ rest) := by
  unfold Setup.linesAt at hrest ⊢
  rw [List.mapM_cons, hfirst]
  cases hall : records.mapM fun r => s.linesOf r.time r.message with
  | error fault =>
    rw [hall] at hrest
    cases hrest
  | ok lines =>
    rw [hall] at hrest
    cases hrest
    rfl

/-- The records that count from a level on. -/
def counting (least : Level) (records : List Logged) : List Logged :=
  records.filter fun r => least.weight ≤ r.message.level.weight

theorem counting_cons (least : Level) (r : Logged) (records : List Logged) :
    counting least (r :: records) =
      if least.weight ≤ r.message.level.weight then r :: counting least records
      else counting least records := by
  simp [counting, List.filter_cons]

/-- Bare records show their own lines, and only those that count do. -/
theorem Setup.linesAt_bare {s : Setup} {least : Level} (hs : s.threshold = least.weight)
    {records : List Logged} (hrecords : ∀ r ∈ records, r.message.Bare) :
    s.linesAt records = .ok ((counting least records).flatMap s.format.shown) := by
  induction records with
  | nil => rfl
  | cons r records ih =>
    obtain ⟨hr, hrest⟩ := List.forall_mem_cons.mp hrecords
    rw [Setup.linesAt_cons (s.linesOf_bare hr) (ih hrest), hs, counting_cons]
    split <;> simp

/-- The lines of frames that are filled with times, one after the other. -/
def Format.allFilled (f : Format) (frames : List (Option Frame)) (times : List String) :
    List String :=
  (List.zipWith f.filled frames times).flatten

theorem bare_of_restated {records restated : List Logged}
    (h : List.Forall₂ (fun r r' => r.message.Restates r'.message) records restated) :
    ∀ r ∈ restated, r.message.Bare := by
  induction h with
  | nil => simp
  | cons hr _ ih => exact List.forall_mem_cons.mpr ⟨hr.bare, ih⟩

/-- Records that restate others have their frames, and count where the others do. -/
theorem frames_of_restated (f : Format) (least : Level) {records restated : List Logged}
    (h : List.Forall₂ (fun r r' => r.message.Restates r'.message) records restated) :
    (counting least restated).map (f.frame? ·.message) =
      (counting least records).map (f.frame? ·.message) := by
  induction h with
  | nil => rfl
  | @cons r r' records restated hr _ ih =>
    rw [counting_cons, counting_cons, hr.level]
    split
    · rw [List.map_cons, List.map_cons, ih, hr.frame?_eq]
    · exact ih

theorem Format.flatMap_shown (f : Format) (records : List Logged) :
    records.flatMap f.shown =
      f.allFilled (records.map (f.frame? ·.message)) (records.map (·.time)) := by
  induction records with
  | nil => rfl
  | cons r records ih =>
    rw [List.flatMap_cons, ih]
    rfl

theorem thresholdOf_name {name : String} {least : Level}
    (h : Text.upper name = Text.upper least.name) : thresholdOf name = .ok least.weight := by
  unfold thresholdOf
  rw [h]
  cases least <;> rfl

/-- A log that is kept from a level on, its name in letters of any size, shows the bare records
at this level and above, in their order, each by lines of its own. Saying any of them again as a
text or as an event keeps all lines but for the times in them. -/
theorem texts_and_events_are_logged_alike (s : LogSettings) (least : Level)
    (hlevel : Text.upper s.level = Text.upper least.name) :
    ∃ setup, Setup.ofSettings s = .ok setup ∧ setup.format = .ofName s.format ∧
      ∀ records : List Logged, (∀ r ∈ records, r.message.Bare) →
        setup.linesAt records = .ok ((counting least records).flatMap setup.format.shown) ∧
        (∀ r ∈ records, ∀ text, r.message.said? = some (.text text) → setup.format.shown r ≠ []) ∧
        let frames := (counting least records).map (setup.format.frame? ·.message)
        let filled (rs : List Logged) :=
          setup.format.allFilled frames ((counting least rs).map (·.time))
        setup.linesAt records = .ok (filled records) ∧
          ∀ restated, List.Forall₂ (fun r r' => r.message.Restates r'.message) records restated →
            setup.linesAt restated = .ok (filled restated) := by
  refine ⟨⟨least.weight, .ofName s.format⟩, ?_, rfl, fun records hrecords => ⟨?_, ?_, ?_, ?_⟩⟩
  · rw [Setup.ofSettings, thresholdOf_name hlevel]
    rfl
  · exact Setup.linesAt_bare rfl hrecords
  · exact fun r _ text htext => Format.shown_text_ne_nil _ htext
  · rw [Setup.linesAt_bare rfl hrecords, Format.flatMap_shown]
  · intro restated hall
    rw [Setup.linesAt_bare rfl (bare_of_restated hall), Format.flatMap_shown,
      frames_of_restated _ _ hall]

theorem a_loss_is_logged_as_a_text_and_as_an_event :
    Text.upper "Warning" = Text.upper Level.warning.name ∧
    ∃ setup, Setup.ofSettings { level := "Warning" } = .ok setup ∧
      setup.lines "09:00" [.plain "app" .info "open" [], .plain "app" .error "lost" []] =
        .ok ["\x7b\"event\": \"lost\", \"logger\": \"app\", \"level\": \"error\", " ++
          "\"timestamp\": \"09:00\"\x7d"] ∧
      setup.lines "10:30" [.plain "app" .info "open" [],
          .structured "app" .error (.text "lost") []] =
        .ok ["\x7b\"event\": \"lost\", \"logger\": \"app\", \"level\": \"error\", " ++
          "\"timestamp\": \"10:30\"\x7d"] := by
  have hname : Text.upper "Warning" = Text.upper Level.warning.name := by decide
  obtain ⟨setup, hsetup, hformat, hall⟩ :=
    texts_and_events_are_logged_alike { level := "Warning" } .warning hname
  let opened : Message := .plain "app" .info "open" []
  obtain ⟨hlost, -⟩ := Message.restates_event "app" .error "lost"
  obtain ⟨-, -, htexts, hrestated⟩ := hall
    [⟨"09:00", opened⟩, ⟨"09:00", .plain "app" .error "lost" []⟩] (by simp [Message.Bare, opened])
  have hevents := hrestated
    [⟨"10:30", opened⟩, ⟨"10:30", .structured "app" .error (.text "lost") []⟩]
    (.cons (Message.Bare.restates_itself rfl) (.cons hlost .nil))
  rw [hformat] at htexts hevents
  refine ⟨hname, setup, hsetup, ?_, ?_⟩
  · rw [Setup.lines_eq_linesAt]
    exact htexts.trans (congrArg Except.ok (by decide +kernel))
  · rw [Setup.lines_eq_linesAt]
    exact hevents.trans (congrArg Except.ok (by decide +kernel))

end SearchQuery.Log
