namespace GrpcDiscovery.TypeName

/-!
# Names of types

The full name of a type lists the scopes it stands in, with dots between them. A
reference inside a descriptor writes a full name after a leading dot; names are
stored without it, and a look-up takes either form.
-/

/-- The name without the one leading dot that a reference may carry. -/
def normalize (name : String) : String :=
  match name.toList with
  | '.' :: rest =>
      String.ofList rest
  | _ =>
      name

/-- The name of a definition inside a scope; the outermost scope has no name. -/
def qualify
    (scope name : String) :
    String :=
  if scope = "" then
    name
  else
    scope ++ "." ++ name

end GrpcDiscovery.TypeName
