import AnswerStream.Config.Basic

/-!
Queries and the request bodies that carry them. The identifiers of the caller stand beside the
generated parameters and replace those of the same name.
-/

namespace AnswerStream
open Json (Value)

structure Query where
  text : String
  mode : QueryMode
  /-- Sorted by key. -/
  identifiers : List (String × String)
  deriving DecidableEq, Repr

/-- Fresh identifiers for one request. -/
structure FreshIds where
  frontend : String
  context : String
  deriving DecidableEq, Repr

namespace Query

def ofText (text : String) : Query := ⟨text, .standard, []⟩

/-- The last value given for a key counts. -/
def withIdentifier (q : Query) (key value : String) : Query :=
  { q with identifiers := Json.Members.insert key value q.identifiers }

/-- The parameters that every query carries. -/
def generated (q : Query) (locale : LocaleConfig) (ids : FreshIds) : List (String × Value) :=
  [("attachments", .array []),
    ("frontend_context_uuid", .text ids.context),
    ("frontend_uuid", .text ids.frontend),
    ("is_incognito", .bool false),
    ("is_related_query", .bool false),
    ("language", .text locale.language),
    ("mode", .text "copilot"),
    ("model_preference", .text locale.modelPreference),
    ("prompt_source", .text "user"),
    ("query_source", .text "home"),
    ("search_focus", .text "internet"),
    ("search_implementation_mode", .text q.mode.searchImplementation),
    ("send_back_text_in_streaming_api", .bool false),
    ("skip_search_enabled", .bool true),
    ("sources", .array [.text "web"]),
    ("timezone", .text locale.timezone),
    ("use_schematized_api", .bool true),
    ("version", .text locale.apiVersion)]

def params (q : Query) (locale : LocaleConfig) (ids : FreshIds) : List (String × Value) :=
  q.identifiers.foldl (fun ms e => Json.Members.insert e.1 (.text e.2) ms) (q.generated locale ids)

def body (q : Query) (locale : LocaleConfig) (ids : FreshIds) : Value :=
  .object [("params", .object (q.params locale ids)), ("query_str", .text q.text)]

end Query
end AnswerStream
