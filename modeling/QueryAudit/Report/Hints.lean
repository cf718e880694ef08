import QueryAudit.Text.Blank

/-!
# Hints

The advice that a report gives when one shape was executed with different
values.  It depends on the persistence frameworks that the program under test
uses; the first hint is common to all of them.
-/

namespace QueryAudit

/-- The persistence frameworks with advice of their own. -/
inductive Framework where
  | hibernate
  | micronautData
  deriving DecidableEq, Repr

/-- A name that is no framework's name. -/
structure UnknownFramework where
  name : String
  deriving DecidableEq, Repr

/-- The message about an unknown framework. -/
def UnknownFramework.message (e : UnknownFramework) : String :=
  "unknown persistence framework: " ++ e.name

namespace Framework

/-- The name of a framework. -/
def name : Framework → String
  | hibernate => "hibernate"
  | micronautData => "micronaut-data"

/-- All frameworks, in the order in which their hints are given. -/
def all : List Framework := [hibernate, micronautData]

/-- The framework with a name; case does not matter, nor do blanks around it. -/
def parse (name : String) : Except UnknownFramework Framework :=
  match String.ofList ((Text.trim name.toList).map Char.toLower) with
  | "hibernate" => .ok hibernate
  | "micronaut" => .ok micronautData
  | "micronaut-data" => .ok micronautData
  | _ => .error ⟨name⟩

/-- The advice against one query per row. -/
def hint : Framework → String
  | hibernate =>
    "💡 Perhaps you are facing a N+1 select issue\n" ++
    "\t * With Hibernate, you may fix it by using JOIN FETCH\n" ++
    "\t                                       or LEFT JOIN FETCH\n" ++
    "\t                                       or FetchType.LAZY\n" ++
    "\t                                       or ...\n" ++
    "\t Some examples: https://stackoverflow.com/questions/32453989/" ++
    "what-is-the-solution-for-the-n1-issue-in-jpa-and-hibernate"
  | micronautData =>
    "💡 Perhaps you are facing a N+1 select issue\n" ++
    "\t With Micronaut Data, you may fix it by using the @Join annotation " ++
    "on your repository interface:\n" ++
    "\t https://micronaut-projects.github.io/micronaut-data/latest/guide/#joinQueries"

end Framework

/-- The advice that holds whatever framework is used. -/
def roundTripHint : String :=
  "💡 Perhaps you are facing server round trips\n" ++
  "\t Each JDBC execution is a round trip between the application and the database server.\n" ++
  "\t Grouping the same statements into a single one (for example with an IN clause) or " ++
  "using JDBC batching reduces the number of round trips."

/-- The hints for the frameworks in use, each framework once. -/
def frameworkHints (inUse : List Framework) : List String :=
  roundTripHint :: (Framework.all.filter (· ∈ inUse)).map Framework.hint

end QueryAudit
