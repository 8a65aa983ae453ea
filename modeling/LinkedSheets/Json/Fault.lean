/-!
# Faults of JSON texts
-/

namespace LinkedSheets

/-- Why bytes are not the JSON document that was asked for: they break the grammar, they end too
early, a value has the wrong shape, or they cannot be read at all. -/
inductive JsonFault where
  | malformed
  | unfinished
  | misshapen
  | unreadable
  deriving DecidableEq, Repr

end LinkedSheets
