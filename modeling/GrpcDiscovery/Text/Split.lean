namespace GrpcDiscovery.Split

/-!
# Texts between separators

A text that holds `n` separators has `n + 1` pieces, some of which may be empty.
-/

/-- The pieces of a text between the separators in it. -/
def on (isSeparator : Char → Bool) : List Char → List (List Char)
  | [] =>
      [[]]
  | char :: rest =>
      if isSeparator char then
        [] :: on isSeparator rest
      else
        match on isSeparator rest with
        | [] =>
            [[char]]
        | piece :: others =>
            (char :: piece) :: others

/-- The texts before and after the first separator, if there is one. -/
def atFirst? (separator : Char) : List Char → Option (List Char × List Char)
  | [] =>
      none
  | char :: rest =>
      if char = separator then
        some ([], rest)
      else
        (atFirst? separator rest).map fun (before, after) =>
          (char :: before, after)

/-- The texts before and after the last separator, if there is one. -/
def atLast? (separator : Char) : List Char → Option (List Char × List Char)
  | [] =>
      none
  | char :: rest =>
      match atLast? separator rest with
      | some (before, after) =>
          some (char :: before, after)
      | none =>
          if char = separator then
            some ([], rest)
          else
            none

end GrpcDiscovery.Split
