import Grader.Uuid

/-! The keys of documents on a key-value server. A key starts with the kind of its document, so
documents of two kinds never share one. -/
namespace Grader.Key

def submission (id : Uuid) : String := "judge:submission:" ++ id.text

def problem (id : String) : String := "judge:problem:" ++ id

/-- The cases of a problem are one document. -/
def cases (problemId : String) : String := "judge:testcases:" ++ problemId

def record (userId : String) : String := "judge:ratelimit:" ++ userId

end Grader.Key
