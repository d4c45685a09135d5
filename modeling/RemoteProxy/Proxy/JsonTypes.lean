import RemoteProxy.Qt.Types

namespace RemoteProxy

inductive TunnelProxyError where
  | NoError | InvalidUuid | InternalServerError | ServerNotFound | ForbiddenCall
  | AlreadyRegistered | NotRegistered | UnknownSocketAddress
  deriving DecidableEq, Repr

namespace JsonTypes

def tunnelProxyErrorToString : TunnelProxyError → String
  | .NoError => "TunnelProxyErrorNoError"
  | .InvalidUuid => "TunnelProxyErrorInvalidUuid"
  | .InternalServerError => "TunnelProxyErrorInternalServerError"
  | .ServerNotFound => "TunnelProxyErrorServerNotFound"
  | .ForbiddenCall => "TunnelProxyErrorForbiddenCall"
  | .AlreadyRegistered => "TunnelProxyErrorAlreadyRegistered"
  | .NotRegistered => "TunnelProxyErrorNotRegistered"
  | .UnknownSocketAddress => "TunnelProxyErrorUnknownSocketAddress"

def tunnelProxyError : List QVariant :=
  [TunnelProxyError.NoError,.InvalidUuid,.InternalServerError,.ServerNotFound,.ForbiddenCall,
    .AlreadyRegistered,.NotRegistered,.UnknownSocketAddress].map
    fun e => .string (tunnelProxyErrorToString e)

def basicTypeToString : BasicType → String
  | .Uuid => "Uuid"
  | .String => "String"
  | .Int => "Int"
  | .UInt => "UInt"
  | .Double => "Double"
  | .Bool => "Bool"
  | .Variant => "Variant"
  | .Object => "Object"

def basicType : List QVariant :=
  [BasicType.Uuid,.String,.Int,.UInt,.Double,.Bool,.Variant,.Object].map
    fun t => .string (basicTypeToString t)

def basicTypeRef : String := "$ref:BasicType"

def tunnelProxyErrorRef : String := "$ref:TunnelProxyError"

def allTypes : QVariantMap :=
  [("BasicType",.list basicType),("TunnelProxyError",.list tunnelProxyError)]

variable (q : Qt)

def report (status : Bool) (message : String) : Bool × String := (status,message)

def validateEnum (enumList : List QVariant) (value : QVariant) : Bool × String :=
  let enumStrings := enumList.map q.toString
  let valid := enumStrings.contains (q.toString value)
  report valid
    (q.arg (q.arg "Value %1 not allowed in %2" (q.toString value)) (String.intercalate ", " enumStrings))

def validateBasicType (variant : QVariant) : Bool × String :=
  if q.canConvert variant .Uuid && q.convert variant .Uuid then
    if (q.uuidFromString (q.toString variant)).isNull then report false "Invalid uuid format."
    else report true ""
  else if q.canConvert variant .String && q.convert variant .String then report true ""
  else if q.canConvert variant .Int && q.convert variant .Int then report true ""
  else if q.canConvert variant .Double && q.convert variant .Double then report true ""
  else if q.convert variant .Bool && q.canConvert variant .Bool then report true ""
  else report false (q.arg "Error validating basic type %1." (q.toString variant))

def validateProperty (templateValue value : QVariant) : Bool × String :=
  let strippedTemplateValue := q.toString templateValue
  if strippedTemplateValue = basicTypeToString .Variant then report true ""
  else if strippedTemplateValue = basicTypeToString .Object then report true ""
  else if strippedTemplateValue = basicTypeToString .Uuid then
    report (q.canConvert value .Uuid) (q.arg "Param %1 is not a uuid." (q.toString value))
  else if strippedTemplateValue = basicTypeToString .String then
    report (q.canConvert value .String) (q.arg "Param %1 is not a string." (q.toString value))
  else if strippedTemplateValue = basicTypeToString .Bool then
    report (q.canConvert value .Bool) (q.arg "Param %1 is not a bool." (q.toString value))
  else if strippedTemplateValue = basicTypeToString .Int then
    report (q.canConvert value .Int) (q.arg "Param %1 is not a int." (q.toString value))
  else if strippedTemplateValue = basicTypeToString .UInt then
    report (q.canConvert value .UInt) (q.arg "Param %1 is not a int." (q.toString value))
  else
    report false
      (q.arg (q.arg "Unhandled property type: %1 (expected: %2)" (q.toString value))
        strippedTemplateValue)

def isOptional (key : String) : Bool := key.toList.take 2 == ['o',':']

def strippedKey (key : String) : String :=
  if isOptional key then String.ofList (key.toList.drop 2) else key

def validateString (template : String) (variant : QVariant) : Bool × String :=
  if template.toList.take 5 == ['$','r','e','f',':'] then
    if template = basicTypeRef then validateBasicType q variant
    else if template = tunnelProxyErrorRef then validateEnum q tunnelProxyError variant
    else report false (q.arg "Unhandled ref %1. Server implementation incomplete." template)
  else validateProperty q (.string template) variant

def missingKey (key : String) (map : QVariantMap) : Bool × String :=
  report false (q.arg (q.arg "Missing key %1 in %2" key) (q.toJsonIndented map))

def forbiddenKey (key : String) (map : QVariantMap) : Bool × String :=
  report false (q.arg (q.arg "Forbidden key \"%1\" in %2" key) (q.toJsonIndented map))

def validateAllowed (templateMap map : QVariantMap) : Bool × String :=
  match map.keys.find? fun key =>
      !templateMap.contains key && !templateMap.contains ("o:" ++ key) with
  | some key => forbiddenKey q key map
  | none => report true ""

def validateList (validate : QVariant → Bool × String) : List QVariant → Bool × String
  | [] => report true ""
  | entry :: list =>
    let result := validate entry
    if !result.1 then result else validateList validate list

mutual

def validateTemplate : QVariantMap → QVariantMap → Bool × String
  | [], _ => report true ""
  | (key,template) :: templateMap, map =>
    if !isOptional key && !map.contains (strippedKey key) then missingKey q key map
    else if map.contains (strippedKey key) then
      let result := validateVariant template (map.value (strippedKey key))
      if !result.1 then result else validateTemplate templateMap map
    else validateTemplate templateMap map

def validateVariant : QVariant → QVariant → Bool × String
  | .string template, variant =>
    let result := validateString q template variant
    if !result.1 then result else report true ""
  | .map templateMap, variant =>
    let result := validateTemplate templateMap variant.toMap
    if !result.1 then result
    else
      let result := validateAllowed q templateMap variant.toMap
      if !result.1 then result else report true ""
  -- the source asserts that the list holds one template
  | .list [], _ => report true ""
  | .list (entryTemplate :: _), variant =>
    validateList (validateVariant entryTemplate) variant.toList
  | templateVariant, _ => report false (q.arg "Unhandled value %1." (q.toString templateVariant))

end

def validateMap (templateMap map : QVariantMap) : Bool × String :=
  let result := validateTemplate q templateMap map
  if !result.1 then result else validateAllowed q templateMap map

end JsonTypes

end RemoteProxy
