import SourceCookie.Message

/-!
What can go wrong in a node. Untrusted messages never end up here: those that are malformed or forged
are outcomes of handling them.
-/

namespace SourceCookie

inductive NodeError where
  | config (text : String)
  | secret (text : String)
  | io (text : String)
  | transport (text : String)
  | wire (error : Message.DecodeError)
  | other (text : String)
  deriving DecidableEq

namespace NodeError

def render : NodeError → String
  | config text => "Configuration error: " ++ text
  | secret text => "Secret error: " ++ text
  | io text => "Network I/O error: " ++ text
  | transport text => "Transport error: " ++ text
  | wire error => "Wire format error: " ++ error.render
  | other text => text

end NodeError

end SourceCookie
