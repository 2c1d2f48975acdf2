import ResourceBundle.Xml.Subset

/-! # The grammar of additional texts

A document of additional texts holds texts with a key; each has at most one description, and then its
translations with their languages. The grammar is given as text and as data. -/

namespace ResourceBundle.AdditionalText

def dtd : String :=
  "<?xml version=\"1.0\" encoding=\"UTF-8\"?>\n" ++
  "<!--\n" ++
  "    Additional texts for the i18n resource bundle generator.\n" ++
  "\n" ++
  "    System identifier: http://dtd.tquadrat.org/AdditionalText.dtd\n" ++
  "-->\n" ++
  "<!ELEMENT texts (text*)>\n" ++
  "\n" ++
  "<!ELEMENT text (description?, translation*)>\n" ++
  "<!ATTLIST text\n" ++
  "    key CDATA #REQUIRED>\n" ++
  "\n" ++
  "<!ELEMENT description (#PCDATA)>\n" ++
  "\n" ++
  "<!ELEMENT translation (#PCDATA)>\n" ++
  "<!ATTLIST translation\n" ++
  "    language CDATA #REQUIRED>\n"

/-- The system identifier under which documents name the grammar. -/
def systemId : String := "http://dtd.tquadrat.org/AdditionalText.dtd"

def textsName : Xml.Name := ['t', 'e', 'x', 't', 's']

def textName : Xml.Name := ['t', 'e', 'x', 't']

def descriptionName : Xml.Name := ['d', 'e', 's', 'c', 'r', 'i', 'p', 't', 'i', 'o', 'n']

def translationName : Xml.Name := ['t', 'r', 'a', 'n', 's', 'l', 'a', 't', 'i', 'o', 'n']

def keyName : Xml.Name := ['k', 'e', 'y']

def languageName : Xml.Name := ['l', 'a', 'n', 'g', 'u', 'a', 'g', 'e']

/-- What a text may hold: a description, if there is one, and then translations. -/
def textModel : Xml.Model Xml.Name :=
  .sequence (.optional (.symbol descriptionName)) (.star (.symbol translationName))

def grammar : Xml.Grammar where
  elements := [⟨textsName, .children (.star (.symbol textName)), true⟩,
    ⟨textName, .children textModel, true⟩, ⟨descriptionName, .mixed [], true⟩,
    ⟨translationName, .mixed [], true⟩]
  attributes := [⟨textName, keyName, .cdata, .required⟩,
    ⟨translationName, languageName, .cdata, .required⟩]
  entities := []
  parameters := []
  notations := []

/-- The grammars that are handed out without being fetched. -/
def catalog : Xml.Catalog := [(systemId.toList, grammar)]

end ResourceBundle.AdditionalText
