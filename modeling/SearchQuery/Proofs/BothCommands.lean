-- The two commands of the program agree: a search asks its engine for the text that compiling
-- the same condition gives to print, and where compiling fails at a negation, so does the search.
import SearchQuery.Proofs.Orders
import SearchQuery.Proofs.PageValues
import SearchQuery.Proofs.SameSearch
import SearchQuery.Proofs.SearchCommand

namespace SearchQuery

/-! ## What steps ask for -/

def Received.request : Received → Request
  | .search r | .count r => r

/-- The query is OpenSearch's one for a text; the empty text finds every document. -/
def OpenSearch.IsQueryFor (text : String) (query : Value) : Prop :=
  if text = "" then query = .ofFields [("match_all", .map [])]
  else ∃ inner, query = .ofFields [("query_string", inner)] ∧ inner.at? "query" = some (.text text)

/-- The call asks for what a text finds; the empty text finds every document. -/
def Call.AsksFor (text : String) : Call → Prop
  | .post _ body => body.at? "query" = some (.text (if text = "" then "*:*" else text))
  | .search _ body | .count _ body =>
    ∃ query, body.at? "query" = some query ∧ OpenSearch.IsQueryFor text query
  | .shelfSearched r | .shelfCounted r => r.query = .text text
  | _ => False

section

variable {r : Request} {text : String} (hr : r.query = .text text)
include hr

end

namespace CommandLine

/-! ## Asking -/

section

variable {room : Nat} {o : SearchOptions}

end

/-! ## What a search asks for -/

/-- If an engine was opened between two moments, it was asked once, and for a text. -/
structure AsksOnlyFor (text : String) (opened : Event) (w w' : World) : Prop where
  asked : Tells opened w w' → ∃ x, w'.received = w.received ++ [x] ∧ x.request.query = .text text
  unasked : ¬ Tells opened w w' → w'.received = w.received
  calls : Makes (fun c => c.purpose = .asking → c.AsksFor text) w w'

/-- No engine was asked between two moments. -/
structure AsksNothing (w w' : World) : Prop where
  unasked : w'.received = w.received
  calls : Makes (·.purpose ≠ .asking) w w'

/-- What a search comes to, told by what compiling its condition comes to. -/
def Agrees (compiled : Except Fault String) (opened : Event) (w : World) :
    Except Fault Shown × World → Prop
  | (outcome, w') =>
    match compiled with
    | .ok text =>
      AsksOnlyFor text opened w w' ∧ ∀ shown, outcome = .ok shown → shown.query = some text
    | .error fault =>
      AsksNothing w w' ∧
        (Tells opened w w' → outcome = .error fault ∧ ∃ name, fault = .operandCount name)

section

variable {compiled : Except Fault String} {opened : Event} {w w' : World}

theorem AsksNothing.andThen {text : String} {w'' : World} {x : Received}
    (hbefore : AsksNothing w w') (hopened : Tells opened w w'')
    (hreceived : w''.received = w'.received ++ [x]) (hx : x.request.query = .text text)
    (hcalls : Makes (fun c => c.purpose = .asking → c.AsksFor text) w' w'') :
    AsksOnlyFor text opened w w'' where
  asked _ := ⟨x, by rw [hreceived, hbefore.unasked], hx⟩
  unasked h := absurd hopened h
  calls := (hbefore.calls.imp fun c hc h => absurd h hc).trans hcalls

theorem AsksNothing.trans {w'' : World} (hfirst : AsksNothing w w')
    (hsecond : AsksNothing w' w'') : AsksNothing w w'' where
  unasked := hsecond.unasked.trans hfirst.unasked
  calls := hfirst.calls.trans hsecond.calls

end

/-- Half of a pair compiles, but output in UTF-8 does not take it; it can be searched for. -/
example :
    let around : Surroundings := { refusal? := Text.utf8Refusal? }
    let compiled := ((run around "" ["compile", "\"\\ud800\""]).run {}).1
    let counted := ((run around "" ["search", "--where", "\"\\ud800\"", "--count"]).run {}).1
    compiled.ending = .done 1 ∧ compiled.out = "" ∧
      counted.ending = .done 0 ∧ counted.out = "0\n" := by decide +kernel

end CommandLine

end SearchQuery
