-- A few record types to try queries with.
import SearchQuery.Record

namespace SearchQuery.Samples

def book : RecordType where
  name := "Book"
  index := "books"
  fields := [⟨"title", .text, false⟩, ⟨"author", .text, true⟩, ⟨"year", .number, true⟩]

def author : RecordType where
  name := "Author"
  fields := [⟨"name", .text, false⟩]

/-- A type without fields of its own. -/
def plain : RecordType where
  name := "Plain"

/-- A type whose records are called out by their title. -/
def tracked : RecordType where
  name := "Tracked"
  fields := [⟨"title", .text, false⟩]
  announces := some "title"

/-- The type that all others build on. -/
def base : RecordType where
  name := "Record"

/-- All of them. -/
def all : List RecordType := [book, author, plain, tracked, base]

/-- The type of a name. -/
def find? (name : String) : Option RecordType := all.find? (·.name == name)

end SearchQuery.Samples
