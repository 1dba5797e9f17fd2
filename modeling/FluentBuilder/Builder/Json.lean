import FluentBuilder.Builder.Basic
import FluentBuilder.Json.Basic

namespace FluentBuilder

def Member.toJson (m : Member) : Json :=
  .object [
    ("name".toList, .string m.name),
    ("data_type".toList, .string m.type),
    ("optional".toList, .boolean m.optional)]

def Builder.toJson (b : Builder) : Json :=
  .object [
    ("alias_name".toList, .string b.aliasName),
    ("members".toList, .array (b.members.map Member.toJson)),
    ("class_text".toList, .string b.classText)]

def Builder.jsonText (b : Builder) : Text :=
  b.toJson.layout 0

end FluentBuilder
