import ThreadLab.Vocabulary.Basic

namespace ThreadLab

inductive Icmpv6Type where
  | echoRequest
  | echoReply
  | routerSolicitation
  | routerAdvertisement
  | neighborSolicitation
  | neighborAdvertisement
  | redirect
deriving DecidableEq

def Icmpv6Type.number : Icmpv6Type → Int
  | .echoRequest => 128
  | .echoReply => 129
  | .routerSolicitation => 133
  | .routerAdvertisement => 134
  | .neighborSolicitation => 135
  | .neighborAdvertisement => 136
  | .redirect => 137

instance : Vocabulary Icmpv6Type where
  title := "Icmpv6Type"
  group := none
  members := [.echoRequest, .echoReply, .routerSolicitation, .routerAdvertisement,
    .neighborSolicitation, .neighborAdvertisement, .redirect]
  name
    | .echoRequest => "ECHO_REQUEST"
    | .echoReply => "ECHO_REPLY"
    | .routerSolicitation => "ROUTER_SOLICITATION"
    | .routerAdvertisement => "ROUTER_ADVERTISEMENT"
    | .neighborSolicitation => "NEIGHBOR_SOLICITATION"
    | .neighborAdvertisement => "NEIGHBOR_ADVERTISEMENT"
    | .redirect => "REDIRECT"
  code member := .number member.number

end ThreadLab
