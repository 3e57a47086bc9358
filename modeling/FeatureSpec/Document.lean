import FeatureSpec.Compile.Feature
import FeatureSpec.Logged
import FeatureSpec.Xml.Document
/-!
Feature documents: compilation of a tree, a text or the octets of a file. A strict compilation
ends at the first violation.
-/
namespace FeatureSpec.Document

open Compile

def compiledMessage (f : Feature) (source : Option String) : String :=
  let place := sourceName "<string>" source
  s!"Compiled feature {f.name} (version {f.version}) from {place}: {f.stats.toJson.shown}"

def compiled (root : Xml.Element) : Visit Feature := do
  let f ← feature root
  Visit.debug (compiledMessage f)
  return f

def compileTree (options : Options) (root : Xml.Element) : Logged Feature :=
  if root.tag == "Feature" then compiled root options
  else Logged.fail (.inDocument (.wrongRoot root.tag) { source := options.source })

def failureOf (source : Option String) : Xml.Fault → Failure
  | .malformed => .inDocument .malformed { source }
  | .wideCharset => .value .wideCharset
  | .undefinedCharset => .undefinedCharset

def compileRead (options : Options) (root : Except Xml.Fault Xml.Element) : Logged Feature :=
  match root with
  | .ok e => compileTree options e
  | .error fault => Logged.fail (failureOf options.source fault)

def compileText (options : Options) (text : String) : Logged Feature :=
  if Text.isBlankText text then Logged.fail (.inDocument .empty { source := options.source })
  else compileRead options (Xml.Document.ofString text)

def compileOctets (options : Options) (os : Octets) : Logged Feature :=
  if os.all Text.isAsciiBlank then Logged.fail (.inDocument .empty { source := options.source })
  else compileRead options (Xml.Document.ofOctets true os)

end FeatureSpec.Document
