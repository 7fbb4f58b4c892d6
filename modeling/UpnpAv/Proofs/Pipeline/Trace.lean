import UpnpAv.Pipeline.Basic

/-!
# What a trace tells about a pipeline

Only the commands that a pipeline accepted count.  The load among them that came
last names what is loaded, and the last one about the transport says whether
the stream moves.  Of the answers to a query only those count that are times.
-/

namespace UpnpAv
namespace Pipeline

variable {α : Type}

/-- What the last exchange shows that shows anything. -/
def last? (shows? : Exchange -> Option α) (trace : List Exchange) : Option α :=
  (trace.filterMap shows?).getLast?

/-- The locator that an exchange loads. -/
def Exchange.loads? : Exchange -> Option String
  | command (.load uri) true => some uri
  | _ => none

/-- What a pipeline can be brought to do with its stream. -/
inductive Motion where
  | play
  | pause
  | stop
deriving Repr, DecidableEq

/-- What an exchange brings a pipeline to do. -/
def Exchange.moves? : Exchange -> Option Motion
  | command .play true => some .play
  | command .pause true => some .pause
  | command .stop true => some .stop
  | _ => none

/-- The time that an exchange answers to a query; a negative number is none. -/
def Exchange.answers? (query : Query) : Exchange -> Option Int
  | .query asked answer => if asked = query then answer.filter (0 ≤ ·) else none
  | _ => none

/-- What is loaded after a trace. -/
def loaded? (trace : List Exchange) : Option String :=
  last? Exchange.loads? trace

/-- What a pipeline does after a trace. -/
def motion? (trace : List Exchange) : Option Motion :=
  last? Exchange.moves? trace

/-- The latest answer to a query in a trace. -/
def answered? (query : Query) (trace : List Exchange) : Option Int :=
  last? (Exchange.answers? query) trace

theorem last?_append (shows? : Exchange -> Option α) (first second : List Exchange) :
    last? shows? (first ++ second) = (last? shows? second).or (last? shows? first) := by
  rw [last?, List.filterMap_append, List.getLast?_append]
  rfl

theorem loaded?_append (first second : List Exchange) :
    loaded? (first ++ second) = (loaded? second).or (loaded? first) :=
  last?_append Exchange.loads? first second

theorem motion?_append (first second : List Exchange) :
    motion? (first ++ second) = (motion? second).or (motion? first) :=
  last?_append Exchange.moves? first second

theorem answered?_append (query : Query) (first second : List Exchange) :
    answered? query (first ++ second) = (answered? query second).or (answered? query first) :=
  last?_append (Exchange.answers? query) first second

/-- The latest answer is one of the answers, and not negative. -/
theorem mem_of_answered? {query : Query} {trace : List Exchange} {time : Int}
    (hanswered : answered? query trace = some time) :
    Exchange.query query (some time) ∈ trace ∧ 0 ≤ time := by
  rcases List.mem_filterMap.mp (List.mem_of_getLast? hanswered) with ⟨exchange, hmem, hanswers⟩
  cases exchange with
  | query asked answer =>
      rw [Exchange.answers?] at hanswers
      by_cases hasked : asked = query
      · rw [if_pos hasked, Option.filter_eq_some_iff] at hanswers
        rw [← hasked, ← hanswers.1]
        exact ⟨hmem, of_decide_eq_true hanswers.2⟩
      · rw [if_neg hasked] at hanswers
        cases hanswers
  | command told accepted =>
      cases hanswers
  | mediaTypes =>
      cases hanswers

end Pipeline
end UpnpAv
